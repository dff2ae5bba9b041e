/-
How settings come out of their layers. Every setting is decided on its own, by the first of its
sources that sets it at all: the command line comes before the overlay, the overlay before the
profile, and the default is left where none of them says anything. The entries of a schema are
decided in the same way, one for each field. A file that is not there is a layer that sets nothing.

Merging layers is associative, so layers may be put over one another from below or from above. Only
the outcome has to be in range, whatever the layers below it say.
-/

import Sieve.Proofs.Outcome
import Sieve.Proofs.Table
import Sieve.Settings.Load

namespace Sieve

namespace Filter.Schema

theorem merge_assoc (first second third : Schema) :
    (first.merge second).merge third = first.merge (second.merge third) := by
  unfold merge
  rw [Schema.mk.injEq]
  exact Table.merge_assoc second.distinct

@[simp]
theorem get?_merge (schema later : Schema) (field : String) :
    (schema.merge later).get? field = (later.get? field).or (schema.get? field) :=
  Table.lookup_merge later.distinct

end Filter.Schema

namespace Settings

open Sieve.Filter (Schema)

/-! ### Merging -/

@[simp]
theorem later?_eq_or {α : Type} (first second : Option α) :
    later? first second = second.or first := by
  cases second with
  | none => rfl
  | some value => rfl

theorem later?_assoc {α : Type} (first second third : Option α) :
    later? (later? first second) third = later? first (later? second third) := by
  simp only [later?_eq_or, Option.or_assoc]

theorem merge?_assoc {α : Type} {merge : α → α → α}
    (associative : ∀ first second third,
      merge (merge first second) third = merge first (merge second third))
    (first second third : Option α) :
    merge? merge (merge? merge first second) third =
      merge? merge first (merge? merge second third) := by
  cases first with
  | none => rfl
  | some first =>
    cases second with
    | none => rfl
    | some second =>
      cases third with
      | none => rfl
      | some third => exact congrArg some (associative first second third)

theorem FilterSection.merge_assoc (first second third : FilterSection) :
    (first.merge second).merge third = first.merge (second.merge third) := by
  unfold merge
  rw [FilterSection.mk.injEq]
  exact ⟨later?_assoc _ _ _, merge?_assoc Schema.merge_assoc _ _ _⟩

theorem SearchSection.merge_assoc (first second third : SearchSection) :
    (first.merge second).merge third = first.merge (second.merge third) := by
  unfold merge
  rw [SearchSection.mk.injEq]
  exact ⟨later?_assoc _ _ _, later?_assoc _ _ _⟩

theorem Layer.merge_assoc (first second third : Layer) :
    (first.merge second).merge third = first.merge (second.merge third) := by
  unfold merge
  rw [Layer.mk.injEq]
  exact ⟨merge?_assoc FilterSection.merge_assoc _ _ _, merge?_assoc SearchSection.merge_assoc _ _ _⟩

/-! ### What a layer sets -/

namespace Layer

def maxDepth? (layer : Layer) : Option Nat :=
  layer.filter.bind FilterSection.maxDepth

def backend? (layer : Layer) : Option Backend :=
  layer.search.bind SearchSection.backend

def defaultLimit? (layer : Layer) : Option Nat :=
  layer.search.bind SearchSection.defaultLimit

end Layer

/-- What is read off two things that may be missing, where the later of them is asked first. -/
theorem bind_merge? {α β : Type} {merge : α → α → α} {part : α → Option β}
    (later : ∀ first second, part (merge first second) = (part second).or (part first))
    (first second : Option α) :
    (merge? merge first second).bind part = (second.bind part).or (first.bind part) := by
  cases first with
  | none => exact Option.or_none.symm
  | some first =>
    cases second with
    | none => rfl
    | some second => exact later first second

namespace Layer

@[simp]
theorem maxDepth?_merge (first second : Layer) :
    (first.merge second).maxDepth? = second.maxDepth?.or first.maxDepth? :=
  bind_merge? (fun _ _ => later?_eq_or _ _) _ _

@[simp]
theorem backend?_merge (first second : Layer) :
    (first.merge second).backend? = second.backend?.or first.backend? :=
  bind_merge? (fun _ _ => later?_eq_or _ _) _ _

@[simp]
theorem defaultLimit?_merge (first second : Layer) :
    (first.merge second).defaultLimit? = second.defaultLimit?.or first.defaultLimit? :=
  bind_merge? (fun _ _ => later?_eq_or _ _) _ _

@[simp]
theorem target?_merge (first second : Layer) (field : String) :
    (first.merge second).target? field = (second.target? field).or (first.target? field) := by
  simp only [target?, Option.bind_assoc]
  refine bind_merge? (fun first second => ?_) _ _
  exact bind_merge? (fun _ _ => Schema.get?_merge _ _ field) _ _

end Layer

/-! ### What comes out of the layers -/

/-- What the first of some sources sets that sets anything, or else the default. -/
def firstSet {α : Type} (sources : List (Option α)) (default : α) : α :=
  (sources.findSome? id).getD default

def decidedDepth (overrides : Overrides) (overlay profile : Layer) : Nat :=
  firstSet [overrides.maxDepth, overlay.maxDepth?, profile.maxDepth?] Filter.standardLimit

def decidedBackend (overrides : Overrides) (overlay profile : Layer) : Backend :=
  firstSet [overrides.backend, overlay.backend?, profile.backend?] .elasticsearch

def decidedLimit (overlay profile : Layer) : Nat :=
  firstSet [overlay.defaultLimit?, profile.defaultLimit?] standardPage

/-- The settings that sources decide one by one. -/
structure AreDecided (overrides : Overrides) (overlay profile : Layer) (settings : Settings) :
    Prop where
  maxDepth : settings.maxDepth = decidedDepth overrides overlay profile
  backend : settings.backend = decidedBackend overrides overlay profile
  defaultLimit : settings.defaultLimit = decidedLimit overlay profile
  schema : ∀ field, settings.schema.get? field =
    [overlay.target? field, profile.target? field].findSome? id

@[simp]
theorem firstSet_two {α : Type} (first second : Option α) (default : α) :
    firstSet [first, second] default = (first.or second).getD default := by
  cases first with
  | none => cases second <;> rfl
  | some value => rfl

@[simp]
theorem firstSet_three {α : Type} (first second third : Option α) (default : α) :
    firstSet [first, second, third] default = (first.or (second.or third)).getD default := by
  cases first with
  | none => exact firstSet_two second third default
  | some value => rfl

/-- A section that is missing sets nothing. -/
theorem bind_eq_getD {α β : Type} (part : α → Option β) {empty : α} (nothing : part empty = none)
    (section? : Option α) : part (section?.getD empty) = section?.bind part := by
  cases section? with
  | none => exact nothing
  | some present => rfl

theorem get?_ofLayer (overrides : Overrides) (layer : Layer) (field : String) :
    (ofLayer overrides layer).schema.get? field = layer.target? field := by
  show ((layer.filter.getD .empty).schema.getD .empty).get? field = _
  rw [bind_eq_getD (fun schema : Schema => schema.get? field) rfl,
    bind_eq_getD FilterSection.schema rfl]
  rfl

theorem areDecided_ofLayer (overrides : Overrides) (overlay profile : Layer) :
    AreDecided overrides overlay profile (ofLayer overrides (profile.merge overlay)) where
  maxDepth := by
    show (overrides.maxDepth.or ((profile.merge overlay).filter.getD .empty).maxDepth).getD _ = _
    rw [bind_eq_getD FilterSection.maxDepth rfl, decidedDepth, firstSet_three,
      ← Layer.maxDepth?_merge]
    rfl
  backend := by
    show (overrides.backend.or ((profile.merge overlay).search.getD .empty).backend).getD _ = _
    rw [bind_eq_getD SearchSection.backend rfl, decidedBackend, firstSet_three,
      ← Layer.backend?_merge]
    rfl
  defaultLimit := by
    show ((profile.merge overlay).search.getD .empty).defaultLimit.getD _ = _
    rw [bind_eq_getD SearchSection.defaultLimit rfl, decidedLimit, firstSet_two,
      ← Layer.defaultLimit?_merge]
    rfl
  schema := by
    intro field
    rw [get?_ofLayer, Layer.target?_merge]
    cases overlay.target? field with
    | none => cases profile.target? field <;> rfl
    | some target => rfl

/-! ### Files -/

/-- A file is there and holds a layer. -/
def Holds (host : Host) (path : List Char) (layer : Layer) : Prop :=
  ∃ text, (host.lookup path).text = .ok text ∧ Layer.read text = .ok layer

/-- A file holds a layer, or it is not there and the layer sets nothing. -/
def MayHold (host : Host) (path : List Char) (layer : Layer) : Prop :=
  (host.lookup path).isThere = false ∧ layer = .empty ∨ Holds host path layer

/-- The layer of the profile; without a home directory there is none. -/
def IsProfile (host : Host) (layer : Layer) : Prop :=
  match profilePath? host with
  | none => layer = .empty
  | some path => MayHold host path layer

/-- The layer over the profile: a file that is named has to be there, the one in the working
directory may be missing. -/
def IsOverlay (host : Host) (named : Option String) (layer : Layer) : Prop :=
  match named with
  | none => MayHold host fileName layer
  | some path => Holds host (host.expand path) layer

theorem loadLayer_eq_ok_iff {host : Host} {path : List Char} {layer : Layer} :
    loadLayer host path = .ok layer ↔ Holds host path layer := by
  unfold loadLayer Holds
  cases (host.lookup path).text with
  | error fault => simp
  | ok text => simp [mapError_eq_ok_iff]

theorem isThere_of_holds {host : Host} {path : List Char} {layer : Layer}
    (holds : Holds host path layer) : (host.lookup path).isThere = true := by
  obtain ⟨text, read, _⟩ := holds
  cases found : host.lookup path with
  | file _ | directory | denied => rfl
  | missing | notDirectory | nameTooLong | nulInName | hidden =>
    rw [found] at read
    cases read

theorem loadOptionalLayer_eq_ok_iff {host : Host} {path : List Char} {layer : Layer} :
    loadOptionalLayer host path = .ok layer ↔ MayHold host path layer := by
  unfold loadOptionalLayer MayHold
  by_cases present : (host.lookup path).isThere = true
  · rw [if_pos present, loadLayer_eq_ok_iff, present]
    simp
  · have missing : ¬Holds host path layer := mt isThere_of_holds present
    rw [if_neg present, or_iff_left missing, and_iff_right (Bool.eq_false_iff.mpr present),
      Except.ok.injEq, eq_comm]

theorem loadProfile_eq_ok_iff {host : Host} {layer : Layer} :
    loadProfile host = .ok layer ↔ IsProfile host layer := by
  unfold loadProfile IsProfile
  cases profilePath? host with
  | none => rw [Except.ok.injEq, eq_comm]
  | some path => exact loadOptionalLayer_eq_ok_iff

theorem loadOverlay_eq_ok_iff {host : Host} {named : Option String} {layer : Layer} :
    loadOverlay host named = .ok layer ↔ IsOverlay host named layer := by
  unfold loadOverlay IsOverlay
  cases named with
  | none => exact loadOptionalLayer_eq_ok_iff
  | some path =>
    show (if (host.lookup (host.expand path)).isThere then loadLayer host (host.expand path)
      else .error (.missing (host.expand path))) = .ok layer ↔ _
    by_cases present : (host.lookup (host.expand path)).isThere = true
    · rw [if_pos present, loadLayer_eq_ok_iff]
    · rw [if_neg present]
      refine iff_of_false ?_ (mt isThere_of_holds present)
      rintro ⟨⟩

/-! ### Loading -/

/-- The range of settings. -/
def InRange (depth limit : Nat) : Prop :=
  (1 ≤ depth ∧ depth ≤ 64) ∧ 1 ≤ limit ∧ limit ≤ 500

instance (depth limit : Nat) : Decidable (InRange depth limit) :=
  inferInstanceAs (Decidable ((1 ≤ depth ∧ depth ≤ 64) ∧ 1 ≤ limit ∧ limit ≤ 500))

theorem validate_eq_ok_iff {settings result : Settings} :
    settings.validate = .ok result ↔
      InRange settings.maxDepth settings.defaultLimit ∧ settings = result := by
  unfold validate InRange greatestDepth largestPage
  by_cases depth : 1 ≤ settings.maxDepth ∧ settings.maxDepth ≤ 64
  · rw [if_neg (not_not_intro depth)]
    by_cases limit : 1 ≤ settings.defaultLimit ∧ settings.defaultLimit ≤ 500
    · rw [if_neg (not_not_intro limit), Except.ok.injEq, and_iff_right ⟨depth, limit⟩]
    · rw [if_pos limit]
      simp [limit]
  · rw [if_pos depth]
    simp [depth]

theorem resolve_eq_ok_iff {overrides : Overrides} {overlay profile : Layer} {settings : Settings} :
    resolve overrides (profile.merge overlay) = .ok settings ↔
      InRange (decidedDepth overrides overlay profile) (decidedLimit overlay profile) ∧
        ofLayer overrides (profile.merge overlay) = settings := by
  have decided := areDecided_ofLayer overrides overlay profile
  rw [← decided.maxDepth, ← decided.defaultLimit]
  exact validate_eq_ok_iff

theorem load_eq {host : Host} {overrides : Overrides} {profile overlay : Layer}
    (below : IsProfile host profile) (above : IsOverlay host overrides.config overlay) :
    load host overrides = (resolve overrides (profile.merge overlay)).mapError .outOfRange := by
  rw [load, loadProfile_eq_ok_iff.mpr below]
  dsimp only
  rw [loadOverlay_eq_ok_iff.mpr above]

/-- Merging layers is associative. Layers give settings exactly if the depth and the page size that
are decided are in range. What is loaded is, setting by setting and field by field, what the first
source that says anything says. -/
theorem settings_are_decided_one_by_one :
    (∀ first second third : Layer,
      (first.merge second).merge third = first.merge (second.merge third)) ∧
    ∀ (overrides : Overrides) (profile overlay : Layer),
      ((∃ fault, resolve overrides (profile.merge overlay) = .error fault) ↔
        ¬InRange (decidedDepth overrides overlay profile) (decidedLimit overlay profile)) ∧
      ∀ host : Host, IsProfile host profile → IsOverlay host overrides.config overlay →
        ((∃ settings, load host overrides = .ok settings) ↔
          InRange (decidedDepth overrides overlay profile) (decidedLimit overlay profile)) ∧
        ∀ settings, load host overrides = .ok settings →
          AreDecided overrides overlay profile settings := by
  refine ⟨Layer.merge_assoc, fun overrides profile overlay => ⟨?_, fun host below above => ?_⟩⟩
  · cases resolved : resolve overrides (profile.merge overlay) with
    | error fault =>
      refine iff_of_true ⟨fault, rfl⟩ fun inRange => ?_
      cases resolved.symm.trans (resolve_eq_ok_iff.mpr ⟨inRange, rfl⟩)
    | ok settings =>
      refine iff_of_false ?_ (not_not_intro (resolve_eq_ok_iff.mp resolved).1)
      rintro ⟨_, ⟨⟩⟩
  · simp only [load_eq below above, mapError_eq_ok_iff, resolve_eq_ok_iff]
    constructor
    · constructor
      · rintro ⟨_, inRange, _⟩
        exact inRange
      · intro inRange
        exact ⟨_, inRange, rfl⟩
    · rintro _ ⟨_, rfl⟩
      exact areDecided_ofLayer overrides overlay profile

/-- A profile with a depth of zero does no harm below a file in the working directory that sets
another one. -/
theorem overridden_depth_is_not_checked :
    let profile : Layer := ⟨some ⟨some 0, none⟩, none⟩
    let overlay : Layer := ⟨some ⟨some 5, none⟩, some ⟨none, some 7⟩⟩
    let find : List Char → Files.Found := fun path =>
      if path = "/home/.stockroom/stockroom.json".toList then
        .file "\x7b\"filter\":\x7b\"max_depth\":0\x7d\x7d".toUTF8
      else if path = "/work/stockroom.json".toList then
        .file
          "\x7b\"filter\":\x7b\"max_depth\":5\x7d,\"search\":\x7b\"default_limit\":7\x7d\x7d".toUTF8
      else .missing
    let host : Host := ⟨some "/home".toList, "/work".toList, find, [], .empty⟩
    IsProfile host profile ∧ IsOverlay host none overlay ∧
      ∃ settings, load host .empty = .ok settings ∧ settings.maxDepth = 5 ∧
        settings.defaultLimit = 7 := by
  intro profile overlay find host
  have below : IsProfile host profile := Or.inr ⟨_, rfl, rfl⟩
  have above : IsOverlay host none overlay := Or.inr ⟨_, rfl, rfl⟩
  obtain ⟨loads, decided⟩ :=
    (settings_are_decided_one_by_one.2 .empty profile overlay).2 host below above
  obtain ⟨settings, loaded⟩ := loads.mpr (by decide)
  exact ⟨below, above, settings, loaded, (decided settings loaded).maxDepth,
    (decided settings loaded).defaultLimit⟩

end Settings

end Sieve
