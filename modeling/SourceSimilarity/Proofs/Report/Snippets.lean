import SourceSimilarity.Proofs.Batch.AllPairs
import SourceSimilarity.Proofs.Corpus.Loading
import SourceSimilarity.Proofs.Fingerprint.Covered
import SourceSimilarity.Proofs.Fingerprint.Match
import SourceSimilarity.Report.Detailed

/-!
# The detailed report shows what two documents share

A segment is shown by the left text alone. It could as well be shown by the right one, for the
report finds under the two ids the texts that were compared, and these read the same along the
segment.
-/

namespace SourceSimilarity.Report

open Corpus Fingerprint

/-! ## Snippets -/

/-- Both texts show the same for the segment: the first characters that they share, on one line,
with three dots if these are not all of them. -/
structure ShowsShared (left right : Text) (s : Segment) : Prop where
  same : snippet left s.left s.length = snippet right s.right s.length
  shared : ∃ front : Text, front.length = min s.length 60 ∧
    front <+: left.drop s.left ∧ front <+: right.drop s.right ∧
    snippet left s.left s.length = (front.map fun c => if c = '\n' then ' ' else c) ++
      if 60 < s.length then ['.', '.', '.'] else []

section Snippet

variable {left right : Text} {s : Segment}

theorem snippet_eq_append (text : Text) (start length : Nat) :
    snippet text start length =
      (((text.drop start).take (min length snippetLength)).map fun c => if c = '\n' then ' ' else c)
        ++ if snippetLength < length then ['.', '.', '.'] else [] := by
  rw [snippet]
  split
  · rfl
  · exact (List.append_nil _).symm

/-- What the texts share is all that is read for a snippet. -/
theorem front_eq (h : (left.drop s.left).take s.length = (right.drop s.right).take s.length) :
    (left.drop s.left).take (min s.length snippetLength) =
      (right.drop s.right).take (min s.length snippetLength) := by
  rw [Nat.min_comm, ← List.take_take, h, List.take_take]

theorem showsShared_of_take_eq (hleft : s.left + s.length ≤ left.length)
    (h : (left.drop s.left).take s.length = (right.drop s.right).take s.length) :
    ShowsShared left right s := by
  have hfront := front_eq h
  constructor
  case same => rw [snippet_eq_append, snippet_eq_append, hfront]
  case shared =>
    refine ⟨(left.drop s.left).take (min s.length snippetLength), ?_, List.take_prefix _ _, ?_,
      snippet_eq_append _ _ _⟩
    · rw [List.length_take, List.length_drop]
      exact Nat.min_eq_left (by omega)
    · rw [hfront]
      exact List.take_prefix _ _

end Snippet

/-! ## Reports -/

/-- What the report shows of a pair are segments of it, read off the left text, and both texts of
the pair are found in the corpus and have what is shown. -/
structure Shows (corpus : Corpus) (pair : Batch.Pair) (left right : Text) : Prop where
  left_text : corpus.canonical? pair.left = some left
  right_text : corpus.canonical? pair.right = some right
  shared : ∀ s ∈ pair.segments, ShowsShared left right s
  lines : ∃ shown : List Segment, shown.Subperm pair.segments ∧
    shown.length = min pair.segments.length 5 ∧
    shown.map (segmentLine left) <:+: segmentLines corpus pair
  matched : pair.matchedLength = (pair.segments.map Segment.length).sum
  matched_le_left : pair.matchedLength ≤ left.length
  matched_le_right : pair.matchedLength ≤ right.length

theorem exists_segmentLine_infix {corpus : Corpus} {pair : Batch.Pair} {left : Text}
    (h : corpus.canonical? pair.left = some left) :
    ∃ shown : List Segment, shown.Subperm pair.segments ∧
      shown.length = min pair.segments.length segmentsPerPair ∧
      shown.map (segmentLine left) <:+: segmentLines corpus pair := by
  refine ⟨(pair.segments.mergeSort Segment.outranks).take segmentsPerPair, ?_, ?_, ?_⟩
  · exact (List.take_sublist _ _).subperm.trans (List.mergeSort_perm _ _).subperm
  · rw [List.length_take, List.length_mergeSort, Nat.min_comm]
  · rw [segmentLines, h, Option.getD_some]
    split
    · rename_i hempty
      rw [List.isEmpty_iff.mp hempty, List.mergeSort_nil]
      exact List.nil_infix
    · exact List.infix_append _ _ _

section OfDocuments

variable (left right : Document) {width : Nat} (locate : Bool)

theorem segments_ofDocuments_sublist (width : Nat) :
    (Batch.Pair.ofDocuments left right width locate).segments.Sublist
      (tile left.canonical right.canonical
        (clampWidth width left.canonical right.canonical)) := by
  cases locate with
  | false => exact List.nil_sublist _
  | true => exact .refl _

theorem shows_ofDocuments {corpus : Corpus} (hwidth : 0 < width)
    (hleft : corpus.canonical? left.id = some left.canonical)
    (hright : corpus.canonical? right.id = some right.canonical) :
    Shows corpus (.ofDocuments left right width locate) left.canonical right.canonical := by
  have hsublist := segments_ofDocuments_sublist left right locate width
  have hfits (s : Segment) (hs : s ∈ (Batch.Pair.ofDocuments left right width locate).segments) :=
    fits_of_mem_tile (hsublist.subset hs)
  have hpos (s : Segment) (hs : s ∈ (Batch.Pair.ofDocuments left right width locate).segments) :
      0 < s.length :=
    Nat.lt_of_lt_of_le (le_clampWidth (le_clampWidth hwidth)) (hfits s hs).width_le
  have hseparate := (pairwise_separate_tile (le_clampWidth hwidth)).sublist hsublist
  -- No character is in two segments, so the characters in segments are as many as these are long.
  have hmatched : (Batch.Pair.ofDocuments left right width locate).matchedLength =
      ((Batch.Pair.ofDocuments left right width locate).segments.map Segment.length).sum := by
    rw [Batch.Pair.matchedLength, coveredLength_eq_card]
    exact card_placesIn_spansFrom (hseparate.imp And.left)
  constructor
  case left_text => exact hleft
  case right_text => exact hright
  case shared =>
    exact fun s hs =>
      showsShared_of_take_eq ((hfits s hs).left_le (hpos s hs)) (hfits s hs).take_drop_eq
  case lines => exact exists_segmentLine_infix hleft
  case matched => exact hmatched
  case matched_le_left =>
    rw [hmatched]
    exact sum_length_le (hseparate.imp And.left) fun s hs => (hfits s hs).left_le (hpos s hs)
  case matched_le_right =>
    rw [hmatched]
    exact sum_length_le (hseparate.imp And.right) fun s hs => (hfits s hs).right_le (hpos s hs)

end OfDocuments

/-- Whatever is loaded, each pair of a batch compares two of the documents, and the report shows
text that these share. -/
theorem shows_ofCorpus_load (fs : Files.FileSystem) (reserved : Canonical.ReservedWords)
    (limit : Nat) (sources : List Source) {width : Nat} (hwidth : 0 < width) (locate : Bool) :
    ∃ batch, Batch.ofCorpus (load fs reserved limit sources).1 width locate = .ok batch ∧
      ∀ pair ∈ batch.pairs,
        ∃ left ∈ (load fs reserved limit sources).1.documents,
        ∃ right ∈ (load fs reserved limit sources).1.documents,
          Batch.Pair.compare left right width locate = .ok pair ∧
          Shows (load fs reserved limit sources).1 pair left.canonical right.canonical := by
  refine ⟨_, Batch.ofCorpus_eq_ok _ hwidth locate, fun pair hpair => ?_⟩
  obtain ⟨left, hleft, right, hright, rfl⟩ := Batch.exists_documents_of_mem_ranked hpair
  exact ⟨left, hleft, right, hright, Batch.Pair.compare_eq_ok left right hwidth locate,
    shows_ofDocuments left right locate hwidth (canonical?_load hleft) (canonical?_load hright)⟩

/-- The second text of an id is not used. The line break in what the two others share is shown as a
space. -/
theorem shows_ofCorpus_load_two :
    let sources : List Source :=
      [.memory "a" ['!', ';', '\n', ';'], .memory "b" [';', '\n', ';'], .memory "a" [')']]
    let corpus := (load ⟨.directory [], []⟩ .builtin 10 sources).1
    0 < 2 ∧ ∃ batch, Batch.ofCorpus corpus 2 true = .ok batch ∧ ∃ pair ∈ batch.pairs,
      pair.segments = [⟨1, 0, 3⟩] ∧ pair.matchedLength = 3 ∧
      corpus.canonical? pair.left = some ['!', ';', '\n', ';'] ∧
      snippet ['!', ';', '\n', ';'] 1 3 = snippet [';', '\n', ';'] 0 3 ∧
      snippet [';', '\n', ';'] 0 3 = [';', ' ', ';'] := by
  intro sources corpus
  have hcorpus : corpus = ⟨[.ofCanonical "a" 4 ['!', ';', '\n', ';'],
      .ofCanonical "b" 3 [';', '\n', ';']]⟩ := by
    have hfirst : Canonical.normalizeWith .builtin ['!', ';', '\n', ';'] =
        ['!', ';', '\n', ';'] := by decide +kernel
    have hsecond : Canonical.normalizeWith .builtin [';', '\n', ';'] = [';', '\n', ';'] := by
      decide +kernel
    have hbytes : byteSize ['!', ';', '\n', ';'] = 4 ∧ byteSize [';', '\n', ';'] = 3 := by decide
    simp [corpus, sources, load, firstOfEachId, Source.id, loadOne, Source.load, separate, hfirst,
      hsecond, hbytes]
  have htile : tile ['!', ';', '\n', ';'] [';', '\n', ';'] 2 = [⟨1, 0, 3⟩] := by
    have hleft : hashes ['!', ';', '\n', ';'] 2 = [8507, 15114, 2619] := by decide
    have hright : hashes [';', '\n', ';'] 2 = [15114, 2619] := by decide
    simp [tile, clampWidth, Tiling.greedy, hleft, hright, Tiling.walk, Tiling.bestRun,
      maxCandidates, OffsetIndex.ofHashes, OffsetIndex.offsets_ofHashesFrom_cons,
      Tiling.Board.ofText, Tiling.Board.takeFree, Tiling.Board.commonRun, Tiling.Board.free?,
      Tiling.longest, maxSegments]
  obtain ⟨batch, hbatch, hshows⟩ :=
    shows_ofCorpus_load ⟨.directory [], []⟩ .builtin 10 sources (show 0 < 2 by decide) true
  obtain rfl := Except.ok.inj ((Batch.ofCorpus_eq_ok corpus (by decide) true).symm.trans hbatch)
  obtain ⟨pair, hpair, hsegments, hid⟩ : ∃ pair ∈ Batch.ranked (Batch.compared corpus 2 true),
      pair.segments = [⟨1, 0, 3⟩] ∧ pair.left = "a" ∧ pair.right = "b" := by
    refine ⟨.ofDocuments (.ofCanonical "a" 4 ['!', ';', '\n', ';'])
      (.ofCanonical "b" 3 [';', '\n', ';']) 2 true, ?_, htile, rfl, rfl⟩
    rw [(Batch.ranked_perm _).mem_iff, hcorpus]
    exact List.mem_singleton.mpr rfl
  obtain ⟨left, -, right, -, -, hshown⟩ := hshows pair hpair
  have hleft : corpus.canonical? pair.left = some left.canonical := hshown.left_text
  have hright : corpus.canonical? pair.right = some right.canonical := hshown.right_text
  rw [hid.1, hcorpus] at hleft
  rw [hid.2, hcorpus] at hright
  have hshared := hshown.shared ⟨1, 0, 3⟩ (hsegments ▸ List.mem_cons_self)
  rw [← Option.some.inj hleft, ← Option.some.inj hright] at hshared
  refine ⟨by decide, _, hbatch, pair, hpair, hsegments, ?_, ?_, hshared.same, by decide⟩
  · rw [hshown.matched, hsegments]
    rfl
  · rw [hid.1, hcorpus]
    rfl

end SourceSimilarity.Report
