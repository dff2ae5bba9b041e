/-
This file proves that compiling a text has no outcome but the intended ones. Whatever the
reader of filters lets through is renderable and within the limit, and the limit of the
reader is the one of both compilers; so neither of them meets a tree that it cannot render.
What is left to fail is the text itself, a search request where there is no search engine,
and a page that there cannot be.
-/

import Sieve.Compiler
import Sieve.Proofs.Elastic.Rendering
import Sieve.Proofs.Filter.Depth
import Sieve.Proofs.Sql.Lowering

namespace Sieve

open Sieve.Filter (Defect Tree)

/-! ### Trees that were read -/

theorem Filter.Fault.code_ne_defect (fault : Filter.Fault) : fault.code ≠ Defect.code := by
  unfold Filter.Fault.code
  cases fault.problem <;> exact of_decide_eq_true rfl

theorem Sql.exists_ofTree_of_read {reader : Filter.Reader} {document : Json} {tree : Tree}
    (read : reader.read document = .ok tree) (dialect : Sql.Dialect) :
    ∃ statement, Sql.Statement.ofTree dialect reader.limit tree = .ok statement :=
  Sql.exists_ofTree_iff.mpr
    ⟨Filter.Reader.depth_le_of_read read, Filter.Reader.isRenderable_of_read read⟩

theorem Elastic.exists_query_of_read {reader : Filter.Reader} {document : Json} {tree : Tree}
    (read : reader.read document = .ok tree) :
    ∃ query, Elastic.compile reader.limit tree = .ok query ∧
      Elastic.compileQuery reader.limit tree = .ok (Elastic.wrap tree query) :=
  Elastic.exists_compileQuery (Filter.Reader.depth_le_of_read read)
    (Filter.Reader.isRenderable_of_read read)

/-- The filter of a text is the filter of a document. -/
theorem Filter.Reader.exists_read_of_readText {reader : Filter.Reader} {text : String}
    {tree : Tree} (read : reader.readText text = .ok tree) :
    ∃ document, reader.read document = .ok tree := by
  obtain ⟨document, _, taken⟩ := read_of_readText read
  exact ⟨document, taken⟩

/-! ### Search requests -/

theorem Elastic.Request.of_page {filter : Option Tree} {page : Nat} (limit : Nat)
    (outside : ¬(1 ≤ page ∧ page ≤ 100)) :
    Elastic.Request.of filter page limit = .error (.page page) := by
  unfold Elastic.Request.of
  rw [dif_neg (show ¬(1 ≤ page ∧ page ≤ Elastic.lastPage) from outside)]

theorem Elastic.Request.of_limit {filter : Option Tree} {page limit : Nat}
    (inside : 1 ≤ page ∧ page ≤ 100) (outside : ¬(1 ≤ limit ∧ limit ≤ 500)) :
    Elastic.Request.of filter page limit = .error (.limit limit) := by
  unfold Elastic.Request.of
  rw [dif_pos (show 1 ≤ page ∧ page ≤ Elastic.lastPage from inside),
    dif_neg (show ¬(1 ≤ limit ∧ limit ≤ Elastic.largestPage) from outside)]

theorem Elastic.Request.exists_of (filter : Option Tree) {page limit : Nat}
    (inside : 1 ≤ page ∧ page ≤ 100) (insideLimit : 1 ≤ limit ∧ limit ≤ 500) :
    ∃ request, Elastic.Request.of filter page limit = .ok request ∧ request.filter = filter := by
  unfold Elastic.Request.of
  rw [dif_pos (show 1 ≤ page ∧ page ≤ Elastic.lastPage from inside),
    dif_pos (show 1 ≤ limit ∧ limit ≤ Elastic.largestPage from insideLimit)]
  exact ⟨_, rfl, rfl⟩

namespace Compiler

/-- The page that is asked for, or else the first one. -/
def Options.wantedPage (options : Options) : Nat :=
  options.page.getD firstPage

/-- The page size that is asked for, or else the one of the settings. -/
def Options.wantedLimit (options : Options) (settings : Settings) : Nat :=
  options.limit.getD settings.defaultLimit

variable {settings : Settings} {options : Options} {tree : Tree}

theorem request_of_refused {fault : Elastic.PaginationFault}
    (refused : Elastic.Request.of (some tree) options.wantedPage (options.wantedLimit settings) =
      .error fault) :
    request settings options tree = .error (.pagination fault) := by
  rw [Options.wantedPage, Options.wantedLimit] at refused
  rw [request, refused]

/-- A page that there can be gets its request, for a tree that was read. -/
theorem exists_request {document : Json} (read : (reader settings).read document = .ok tree)
    (page : 1 ≤ options.wantedPage ∧ options.wantedPage ≤ 100)
    (limit : 1 ≤ options.wantedLimit settings ∧ options.wantedLimit settings ≤ 500) :
    ∃ body, request settings options tree = .ok body := by
  obtain ⟨wanted, accepted, same⟩ := Elastic.Request.exists_of (some tree) page limit
  obtain ⟨query, _, rendered⟩ := Elastic.exists_query_of_read read
  have written : ∃ body, wanted.body settings.maxDepth = .ok body := by
    rw [Elastic.Request.body, same]
    exact ⟨_, map_eq_ok_iff.mpr ⟨Elastic.wrap tree query, rendered, rfl⟩⟩
  obtain ⟨body, made⟩ := written
  rw [Options.wantedPage, Options.wantedLimit] at accepted
  rw [request, accepted]
  exact ⟨body, mapError_eq_ok_iff.mpr made⟩

/-! ### Rendering what was read -/

theorem render_database (options : Options) {dialect : Sql.Dialect} {document : Json}
    (backend : settings.backend = .sql dialect)
    (read : (reader settings).read document = .ok tree) :
    (options.request = true →
        render settings options tree = .error (.requestForDatabase dialect)) ∧
      (options.request = false → ∃ statement,
        Sql.Statement.ofTree dialect settings.maxDepth tree = .ok statement ∧
        render settings options tree = .ok (statement.toJson dialect)) := by
  unfold render
  rw [backend]
  constructor
  · intro wanted
    exact if_pos wanted
  · intro plain
    obtain ⟨statement, made⟩ := Sql.exists_ofTree_of_read read dialect
    refine ⟨statement, made, ?_⟩
    show (if options.request = true then _ else _) = _
    rw [if_neg (by simp [plain])]
    exact mapError_eq_ok_iff.mpr (map_eq_ok_iff.mpr ⟨statement, made, rfl⟩)

theorem render_engine (options : Options) {document : Json}
    (backend : settings.backend = .elasticsearch)
    (read : (reader settings).read document = .ok tree) :
    (options.request = false → ∃ query, Elastic.compile settings.maxDepth tree = .ok query ∧
        render settings options tree = .ok query) ∧
      (options.request = true → ¬(1 ≤ options.wantedPage ∧ options.wantedPage ≤ 100) →
        render settings options tree = .error (.pagination (.page options.wantedPage))) ∧
      (options.request = true → 1 ≤ options.wantedPage ∧ options.wantedPage ≤ 100 →
        ¬(1 ≤ options.wantedLimit settings ∧ options.wantedLimit settings ≤ 500) →
        render settings options tree =
          .error (.pagination (.limit (options.wantedLimit settings)))) ∧
      (options.request = true → 1 ≤ options.wantedPage ∧ options.wantedPage ≤ 100 →
        1 ≤ options.wantedLimit settings ∧ options.wantedLimit settings ≤ 500 →
        ∃ body, render settings options tree = .ok body) := by
  have chosen : render settings options tree =
      if options.request then request settings options tree
      else (Elastic.compile settings.maxDepth tree).mapError .defect := by
    rw [render, backend]
  rw [chosen]
  refine ⟨fun plain => ?_, fun wanted outside => ?_, fun wanted page outside => ?_,
    fun wanted page limit => ?_⟩
  · obtain ⟨query, compiled, _⟩ := Elastic.exists_query_of_read read
    rw [if_neg (by simp [plain])]
    exact ⟨query, compiled, mapError_eq_ok_iff.mpr compiled⟩
  · rw [if_pos wanted]
    exact request_of_refused (Elastic.Request.of_page _ outside)
  · rw [if_pos wanted]
    exact request_of_refused (Elastic.Request.of_limit page outside)
  · rw [if_pos wanted]
    exact exists_request read page limit

/-! ### Compiling -/

theorem render_ne_defect {document : Json} (read : (reader settings).read document = .ok tree)
    (reason : Defect) : render settings options tree ≠ .error (.defect reason) := by
  intro defect
  cases backend : settings.backend with
  | sql dialect =>
    obtain ⟨refused, accepted⟩ := render_database options backend read
    cases wanted : options.request with
    | true => cases defect.symm.trans (refused wanted)
    | false =>
      obtain ⟨statement, _, rendered⟩ := accepted wanted
      cases defect.symm.trans rendered
  | elasticsearch =>
    obtain ⟨plain, badPage, badLimit, good⟩ := render_engine options backend read
    cases wanted : options.request with
    | false =>
      obtain ⟨query, _, rendered⟩ := plain wanted
      cases defect.symm.trans rendered
    | true =>
      by_cases page : 1 ≤ options.wantedPage ∧ options.wantedPage ≤ 100
      · by_cases limit : 1 ≤ options.wantedLimit settings ∧ options.wantedLimit settings ≤ 500
        · obtain ⟨body, rendered⟩ := good wanted page limit
          cases defect.symm.trans rendered
        · cases defect.symm.trans (badLimit wanted page limit)
      · cases defect.symm.trans (badPage wanted page)

/-- The outcome of compiling any text with any settings. A defect is never among them. A text
that is no filter has the fault of its reading, which is not a defect's. Of a filter, a database
refuses exactly the search requests, and the search engine exactly the requests for pages that
there cannot be; everything else is compiled. Any tree that a reader returns is rendered by both
compilers with the limit of the reader. -/
theorem compile_outcome (settings : Settings) (options : Options) (text : String) :
    (∀ reason, compile settings options text ≠ .error (.defect reason)) ∧
      (∀ fault, (reader settings).readText text = .error fault →
        compile settings options text = .error (.filter fault) ∧ fault.code ≠ Defect.code) ∧
      (∀ tree, (reader settings).readText text = .ok tree →
        (∀ dialect, settings.backend = .sql dialect →
          (options.request = true →
            compile settings options text = .error (.requestForDatabase dialect)) ∧
          (options.request = false → ∃ statement,
            Sql.Statement.ofTree dialect settings.maxDepth tree = .ok statement ∧
            compile settings options text = .ok (statement.toJson dialect))) ∧
        (settings.backend = .elasticsearch →
          (options.request = false → ∃ query,
            Elastic.compile settings.maxDepth tree = .ok query ∧
            compile settings options text = .ok query) ∧
          (options.request = true → ¬(1 ≤ options.wantedPage ∧ options.wantedPage ≤ 100) →
            compile settings options text =
              .error (.pagination (.page options.wantedPage))) ∧
          (options.request = true → 1 ≤ options.wantedPage ∧ options.wantedPage ≤ 100 →
            ¬(1 ≤ options.wantedLimit settings ∧ options.wantedLimit settings ≤ 500) →
            compile settings options text =
              .error (.pagination (.limit (options.wantedLimit settings)))) ∧
          (options.request = true → 1 ≤ options.wantedPage ∧ options.wantedPage ≤ 100 →
            1 ≤ options.wantedLimit settings ∧ options.wantedLimit settings ≤ 500 →
            ∃ body, compile settings options text = .ok body))) ∧
      (∀ (reader : Filter.Reader) (document : Json) (tree : Tree),
        reader.read document = .ok tree →
        (∀ dialect, ∃ statement,
          Sql.Statement.ofTree dialect reader.limit tree = .ok statement) ∧
        ∃ query, Elastic.compile reader.limit tree = .ok query ∧
          Elastic.compileQuery reader.limit tree = .ok (Elastic.wrap tree query)) := by
  refine ⟨fun reason => ?_, fun fault refused => ?_, fun tree read => ?_,
    fun reader document tree read =>
      ⟨Sql.exists_ofTree_of_read read, Elastic.exists_query_of_read read⟩⟩
  · cases read : (reader settings).readText text with
    | error fault =>
      rw [compile, read]
      exact fun defect => by cases defect
    | ok tree =>
      obtain ⟨document, same⟩ := Filter.Reader.exists_read_of_readText read
      rw [compile, read]
      exact render_ne_defect same reason
  · rw [compile, refused]
    exact ⟨rfl, fault.code_ne_defect⟩
  · obtain ⟨document, same⟩ := Filter.Reader.exists_read_of_readText read
    rw [compile, read]
    exact ⟨fun dialect backend => render_database options backend same,
      fun backend => render_engine options backend same⟩

end Compiler

end Sieve
