import Mathlib.Data.List.Pairwise
import Mathlib.Data.List.Nodup
import SourceSimilarity.Corpus.Basic

/-!
# Loading loses nothing

What is loaded for an id is told by the first source with that id, whatever the others are. It is a
document or a failure, and both lists have the order in which their ids first occur.
-/

namespace SourceSimilarity.Corpus

open Files

/-- Where an id occurs for the first time. -/
def firstPlace (sources : List Source) (id : String) : Nat :=
  (sources.map Source.id).idxOf id

/-- The first source of an id. -/
def firstSource? (sources : List Source) (id : String) : Option Source :=
  sources.find? fun source => source.id == id

section FirstSource

variable {source : Source} {rest : List Source} {id : String}

theorem firstSource?_cons_self : firstSource? (source :: rest) source.id = some source :=
  List.find?_cons_of_pos (by simp)

theorem firstSource?_cons_of_ne (h : source.id ≠ id) :
    firstSource? (source :: rest) id = firstSource? rest id :=
  List.find?_cons_of_neg (by simpa using h)

theorem firstPlace_cons_self : firstPlace (source :: rest) source.id = 0 :=
  List.idxOf_cons_self

theorem firstPlace_cons_of_ne (h : source.id ≠ id) :
    firstPlace (source :: rest) id = firstPlace rest id + 1 :=
  List.idxOf_cons_ne _ h

theorem id_of_firstSource? {sources : List Source} (h : firstSource? sources id = some source) :
    source.id = id := by
  simpa using List.find?_some h

theorem exists_firstSource?_iff {sources : List Source} :
    (∃ source, firstSource? sources id = some source) ↔ id ∈ sources.map Source.id := by
  rw [← Option.isSome_iff_exists, firstSource?, List.find?_isSome]
  simp

end FirstSource

/-- Things whose ids first occur one after the other have different ids. -/
theorem nodup_map_of_firstPlace_lt {α : Type} {f : α → String} {sources : List Source} {l : List α}
    (h : l.Pairwise fun a b => firstPlace sources (f a) < firstPlace sources (f b)) :
    (l.map f).Nodup :=
  List.pairwise_map.mpr (h.imp fun hlt heq => absurd (congrArg (firstPlace sources) heq)
    (Nat.ne_of_lt hlt))

/-! ## The first source of each id -/

/-- The sources that are kept are the first ones of their ids, of the ids that are not seen yet. -/
theorem mem_firstOfEachId {sources : List Source} {seen : Std.HashSet String} {source : Source} :
    source ∈ firstOfEachId seen sources ↔
      source.id ∉ seen ∧ firstSource? sources source.id = some source := by
  fun_induction firstOfEachId seen sources with
  | case1 seen => simp [firstSource?]
  | case2 seen first rest hseen ih =>
    rw [ih]
    refine and_congr_right fun hnew => ?_
    have hne : first.id ≠ source.id := by
      intro heq
      exact hnew (heq ▸ Std.HashSet.mem_iff_contains.mpr hseen)
    rw [firstSource?_cons_of_ne hne]
  | case3 seen first rest hseen ih =>
    rw [List.mem_cons, ih, Std.HashSet.mem_insert, beq_iff_eq]
    by_cases heq : first.id = source.id
    -- Only `first` itself can be kept of its id, since the id is seen from here on.
    · rw [← heq, firstSource?_cons_self]
      have hnew : first.id ∉ seen := mt Std.HashSet.mem_iff_contains.mp hseen
      simp [hnew, eq_comm]
    · rw [firstSource?_cons_of_ne heq]
      have hne : source ≠ first := fun h => heq (h ▸ rfl)
      simp [heq, hne]

theorem id_not_mem_of_mem_firstOfEachId {seen : Std.HashSet String} {sources : List Source}
    {source : Source} (h : source ∈ firstOfEachId seen sources) : source.id ∉ seen :=
  (mem_firstOfEachId.mp h).1

/-- Sources in the order in which their ids first occur. -/
def Ordered (sources kept : List Source) : Prop :=
  kept.Pairwise fun a b => firstPlace sources a.id < firstPlace sources b.id

theorem Ordered.cons {first : Source} {rest kept : List Source}
    (hne : ∀ source ∈ kept, first.id ≠ source.id) (h : Ordered rest kept) :
    Ordered (first :: rest) kept := by
  refine h.imp_of_mem fun ha hb hlt => ?_
  rw [firstPlace_cons_of_ne (hne _ ha), firstPlace_cons_of_ne (hne _ hb)]
  exact Nat.succ_lt_succ hlt

/-- The sources that are kept stand in the order of the first places of their ids. -/
theorem ordered_firstOfEachId (seen : Std.HashSet String) (sources : List Source) :
    Ordered sources (firstOfEachId seen sources) := by
  fun_induction firstOfEachId seen sources with
  | case1 seen => exact .nil
  | case2 seen first rest hseen ih =>
    refine ih.cons fun source h heq => ?_
    exact id_not_mem_of_mem_firstOfEachId h (heq ▸ Std.HashSet.mem_iff_contains.mpr hseen)
  | case3 seen first rest hseen ih =>
    have hne : ∀ source ∈ firstOfEachId (seen.insert first.id) rest, first.id ≠ source.id := by
      intro source h heq
      exact id_not_mem_of_mem_firstOfEachId h (heq ▸ Std.HashSet.mem_insert_self)
    refine List.pairwise_cons.mpr ⟨fun source h => ?_, ih.cons hne⟩
    rw [firstPlace_cons_self, firstPlace_cons_of_ne (hne source h)]
    exact Nat.succ_pos _

/-! ## Documents and failures -/

/-- The id that a document or a failure has. -/
def resultId : Except Failure Document → String
  | .ok document => document.id
  | .error failure => failure.id

theorem resultId_loadOne (fs : FileSystem) (reserved : Canonical.ReservedWords) (limit : Nat)
    (source : Source) : resultId (loadOne fs reserved limit source) = source.id := by
  unfold loadOne
  cases source.load fs limit <;> rfl

theorem map_ok_separate_sublist (results : List (Except Failure Document)) :
    ((separate results).1.map Except.ok).Sublist results := by
  induction results with
  | nil => exact .slnil
  | cons result rest ih =>
    cases result with
    | ok document => exact ih.cons_cons _
    | error failure => exact ih.cons _

theorem map_error_separate_sublist (results : List (Except Failure Document)) :
    ((separate results).2.map Except.error).Sublist results := by
  induction results with
  | nil => exact .slnil
  | cons result rest ih =>
    cases result with
    | ok document => exact ih.cons _
    | error failure => exact ih.cons_cons _

theorem mem_separate_fst {results : List (Except Failure Document)} {document : Document} :
    document ∈ (separate results).1 ↔ .ok document ∈ results := by
  induction results with
  | nil => simp [separate]
  | cons result rest ih => cases result <;> simp [separate, ih]

theorem mem_separate_snd {results : List (Except Failure Document)} {failure : Failure} :
    failure ∈ (separate results).2 ↔ .error failure ∈ results := by
  induction results with
  | nil => simp [separate]
  | cons result rest ih => cases result <;> simp [separate, ih]

/-- Every result is on one of the two sides. -/
theorem separate_perm (results : List (Except Failure Document)) :
    ((separate results).1.map Document.id ++ (separate results).2.map Failure.id).Perm
      (results.map resultId) := by
  induction results with
  | nil => exact .nil
  | cons result rest ih =>
    cases result with
    | ok document => exact ih.cons _
    | error failure => exact List.perm_middle.trans (ih.cons _)

/-! ## Corpora -/

theorem get?_eq_some_iff {corpus : Corpus} (h : (corpus.documents.map Document.id).Nodup)
    {id : String} {document : Document} :
    corpus.get? id = some document ↔ document ∈ corpus.documents ∧ document.id = id := by
  unfold get?
  constructor
  · intro hfound
    exact ⟨List.mem_of_find?_eq_some hfound, by simpa using List.find?_some hfound⟩
  · rintro ⟨hmem, rfl⟩
    obtain ⟨found, hfound⟩ : ∃ found, corpus.documents.find? (·.id == document.id) = some found :=
      Option.isSome_iff_exists.mp (List.find?_isSome.mpr ⟨document, hmem, by simp⟩)
    have hid : found.id = document.id := by simpa using List.find?_some hfound
    rw [hfound, List.inj_on_of_nodup_map h (List.mem_of_find?_eq_some hfound) hmem hid]

section Load

variable (fs : FileSystem) (reserved : Canonical.ReservedWords) (limit : Nat)
  (sources : List Source)

/-- What is loaded for an id. -/
def result? (id : String) : Option (Except Failure Document) :=
  (firstSource? sources id).map (loadOne fs reserved limit)

/-- What is loaded for the sources, one result for each id. -/
def results : List (Except Failure Document) :=
  (firstOfEachId ∅ sources).map (loadOne fs reserved limit)

theorem load_eq : load fs reserved limit sources =
    (⟨(separate (results fs reserved limit sources)).1⟩,
      (separate (results fs reserved limit sources)).2) :=
  rfl

variable {fs reserved limit sources}

theorem mem_results {result : Except Failure Document} :
    result ∈ results fs reserved limit sources ↔
      result? fs reserved limit sources (resultId result) = some result := by
  rw [results, List.mem_map, result?, Option.map_eq_some_iff]
  constructor
  · rintro ⟨source, hmem, rfl⟩
    rw [resultId_loadOne]
    exact ⟨source, (mem_firstOfEachId.mp hmem).2, rfl⟩
  · rintro ⟨source, hfirst, rfl⟩
    rw [resultId_loadOne] at hfirst
    exact ⟨source, mem_firstOfEachId.mpr ⟨Std.HashSet.not_mem_empty, hfirst⟩, rfl⟩

theorem map_resultId_results :
    (results fs reserved limit sources).map resultId = (firstOfEachId ∅ sources).map Source.id := by
  rw [results, List.map_map]
  exact List.map_congr_left fun source _ => resultId_loadOne _ _ _ _

theorem pairwise_results : (results fs reserved limit sources).Pairwise fun a b =>
    firstPlace sources (resultId a) < firstPlace sources (resultId b) := by
  refine List.pairwise_map.mpr ((ordered_firstOfEachId ∅ sources).imp fun h => ?_)
  rwa [resultId_loadOne, resultId_loadOne]

/-- Each id of the sources is that of one result. -/
theorem count_results (id : String) :
    ((results fs reserved limit sources).map resultId).count id =
      if id ∈ sources.map Source.id then 1 else 0 := by
  have hnodup : ((results fs reserved limit sources).map resultId).Nodup :=
    nodup_map_of_firstPlace_lt pairwise_results
  have hmem : id ∈ (results fs reserved limit sources).map resultId ↔
      id ∈ sources.map Source.id := by
    rw [map_resultId_results, List.mem_map, ← exists_firstSource?_iff]
    constructor
    · rintro ⟨source, hsource, rfl⟩
      exact ⟨source, (mem_firstOfEachId.mp hsource).2⟩
    · rintro ⟨source, hfirst⟩
      obtain rfl := id_of_firstSource? hfirst
      exact ⟨source, mem_firstOfEachId.mpr ⟨Std.HashSet.not_mem_empty, hfirst⟩, rfl⟩
  rw [hnodup.count]
  simp only [hmem]

end Load

/-- A corpus and failures hold what is loaded for the ids of sources. -/
structure Loaded (fs : FileSystem) (reserved : Canonical.ReservedWords) (limit : Nat)
    (sources : List Source) (corpus : Corpus) (failures : List Failure) : Prop where
  mem_documents : ∀ document, document ∈ corpus.documents ↔
    result? fs reserved limit sources document.id = some (.ok document)
  mem_failures : ∀ failure, failure ∈ failures ↔
    result? fs reserved limit sources failure.id = some (.error failure)
  documents_ordered : corpus.documents.Pairwise fun a b =>
    firstPlace sources a.id < firstPlace sources b.id
  failures_ordered : failures.Pairwise fun a b =>
    firstPlace sources a.id < firstPlace sources b.id
  once : ∀ id, (corpus.documents.map Document.id ++ failures.map Failure.id).count id =
    if id ∈ sources.map Source.id then 1 else 0
  get : ∀ id document,
    corpus.get? id = some document ↔ document ∈ corpus.documents ∧ document.id = id

theorem loaded_load (fs : FileSystem) (reserved : Canonical.ReservedWords) (limit : Nat)
    (sources : List Source) :
    Loaded fs reserved limit sources (load fs reserved limit sources).1
      (load fs reserved limit sources).2 := by
  have hdocuments := List.pairwise_map.mp
    (pairwise_results.sublist (map_ok_separate_sublist (results fs reserved limit sources)))
  have hfailures := List.pairwise_map.mp
    (pairwise_results.sublist (map_error_separate_sublist (results fs reserved limit sources)))
  rw [load_eq]
  constructor
  case mem_documents => exact fun document => mem_separate_fst.trans mem_results
  case mem_failures => exact fun failure => mem_separate_snd.trans mem_results
  case documents_ordered => exact hdocuments
  case failures_ordered => exact hfailures
  case once => exact fun id => by rw [(separate_perm _).count_eq, count_results]
  case get =>
    exact fun id document => get?_eq_some_iff (nodup_map_of_firstPlace_lt hdocuments)

theorem canonical?_load {fs : FileSystem} {reserved : Canonical.ReservedWords} {limit : Nat}
    {sources : List Source} {document : Document}
    (h : document ∈ (load fs reserved limit sources).1.documents) :
    (load fs reserved limit sources).1.canonical? document.id = some document.canonical := by
  rw [canonical?, ((loaded_load fs reserved limit sources).get _ _).mpr ⟨h, rfl⟩]
  rfl

end SourceSimilarity.Corpus
