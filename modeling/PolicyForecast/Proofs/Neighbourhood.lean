import Mathlib.Data.Int.Range
import Mathlib.Data.List.Nodup
import PolicyForecast.Game.Neighbours
import PolicyForecast.Game.Reading
import PolicyForecast.Proofs.Sequences

/-!
# The map as an undirected grid

A map that is read from data has every plot under its own number, and so the neighbours of a plot
are six plots at most, all different and none of them the plot itself. When the numbers of the plots
follow from their columns and rows, the offset of a neighbour leads back from the neighbour when it
is reversed: a row above or below has the other parity, and its offsets are those of this row turned
round. So being neighbours is symmetric, across the seam and on narrow maps too. On a map without
gaps that is at least three columns wide no two offsets lead to the same plot, and what is left to
count are the rows. Main statement: `HexMap.neighbours_undirected`.
-/

namespace PolicyForecast

/-! ## Maps that are read from data -/

/-- The plots of a map stand under their own numbers. -/
def HexMap.WellIndexed (m : HexMap) : Prop :=
  ∀ index p, m.plot? index = some p → p.index = index

/-- A plot of a map that is made of a list is in the list, with its own number. -/
lemma HexMap.mem_of_plot?_ofList {width height index : Int} {plots : List Plot} {p : Plot}
    (hp : (⟨width, height, .ofList (plots.map fun p => (p.index, p))⟩ : HexMap).plot? index
      = some p) : p ∈ plots ∧ p.index = index := by
  unfold plot? at hp
  rw [OrderedMap.get?_ofList, Option.map_eq_some_iff] at hp
  obtain ⟨entry, hlast, rfl⟩ := hp
  have hentry := List.mem_filter.1 (List.mem_of_getLast? hlast)
  obtain ⟨p, hp, rfl⟩ := List.mem_map.1 hentry.1
  exact ⟨hp, (eq_of_beq hentry.2).symm⟩

lemma HexMap.wellIndexed_ofList (width height : Int) (plots : List Plot) :
    (⟨width, height, .ofList (plots.map fun p => (p.index, p))⟩ : HexMap).WellIndexed :=
  fun _ _ hp => (mem_of_plot?_ofList hp).2

lemma HexMap.wellIndexed_of_ofJson {json : Json} {m : HexMap} (h : HexMap.ofJson json = .ok m) :
    m.WellIndexed := by
  obtain ⟨fields, -, h⟩ := Except.exists_of_bind_ok h
  obtain ⟨items, -, h⟩ := Except.exists_of_bind_ok h
  obtain ⟨plots, -, h⟩ := Except.exists_of_bind_ok h
  obtain ⟨width, -, h⟩ := Except.exists_of_bind_ok h
  obtain ⟨height, -, h⟩ := Except.exists_of_bind_ok h
  obtain rfl := Except.ok.inj h
  exact wellIndexed_ofList width height plots

lemma Snapshot.wellIndexed_of_ofJson {json : Json} {g : Snapshot}
    (h : Snapshot.ofJson json = .ok g) : g.map.WellIndexed := by
  obtain ⟨fields, -, h⟩ := Except.exists_of_bind_ok h
  obtain ⟨map, hmap, h⟩ := Except.exists_of_bind_ok h
  obtain ⟨items, -, h⟩ := Except.exists_of_bind_ok h
  obtain ⟨players, -, h⟩ := Except.exists_of_bind_ok h
  split at h
  · cases h
  · obtain rfl := Except.ok.inj h
    exact HexMap.wellIndexed_of_ofJson hmap

/-! ## Offsets -/

/-- If `(dx, dy)` is an offset in row `y`, `(-dx, -dy)` is one in row `y + dy`. -/
lemma reverse_mem_offsetsInRow {y dx dy : Int} (h : (dx, dy) ∈ offsetsInRow y) :
    (-dx, -dy) ∈ offsetsInRow (y + dy) := by
  have heven : ∀ offset ∈ evenRowOffsets, (-offset.1, -offset.2) ∈
      if offset.2 % 2 = 0 then evenRowOffsets else oddRowOffsets := by decide
  have hodd : ∀ offset ∈ oddRowOffsets, (-offset.1, -offset.2) ∈
      if offset.2 % 2 = 0 then oddRowOffsets else evenRowOffsets := by decide
  unfold offsetsInRow at h ⊢
  split at h
  next hy =>
    have hback := heven (dx, dy) h
    split at hback
    next hdy => rwa [if_pos (by omega)]
    next hdy => rwa [if_neg (by omega)]
  next hy =>
    have hback := hodd (dx, dy) h
    split at hback
    next hdy => rwa [if_neg (by omega)]
    next hdy => rwa [if_pos (by omega)]

/-- Of the offsets of a row, two lead to each of the rows -1, 0 and 1. -/
lemma countP_offsetsInRow (inside : Int → Bool) (y : Int) :
    (offsetsInRow y).countP (fun offset => inside offset.2)
      = 2 * ((inside (-1)).toNat + (inside 0).toNat + (inside 1).toNat) := by
  unfold offsetsInRow
  split
  · simp only [evenRowOffsets, List.countP_cons, List.countP_nil]
    cases inside (-1) <;> cases inside 0 <;> cases inside 1 <;> rfl
  · simp only [oddRowOffsets, List.countP_cons, List.countP_nil]
    cases inside (-1) <;> cases inside 0 <;> cases inside 1 <;> rfl

/-- Two offsets lead to different rows, or to columns of one row that are one or two apart. -/
def OffsetsApart (o o' : Int × Int) : Prop :=
  o.2 ≠ o'.2 ∨ (o.1 ≠ o'.1 ∧ o.1 - o'.1 ≤ 2 ∧ o'.1 - o.1 ≤ 2)

instance : DecidableRel OffsetsApart := fun o o' => by unfold OffsetsApart; infer_instance

/-- The offsets of a row and `(0, 0)` are pairwise `OffsetsApart`. -/
lemma pairwise_offsetsApart (y : Int) : ((0, 0) :: offsetsInRow y).Pairwise OffsetsApart := by
  unfold offsetsInRow
  split
  · decide
  · decide

namespace HexMap

variable {m : HexMap} {index : Int} {p q : Plot} {offset : Int × Int}

/-! ## First occurrences -/

lemma mem_firstOccurrences {keep : Int → Bool} {seen numbers : List Int} {n : Int} :
    n ∈ firstOccurrences keep seen numbers ↔ n ∈ numbers ∧ keep n = true ∧ n ∉ seen := by
  induction numbers generalizing seen with
  | nil => simp [firstOccurrences]
  | cons k rest ih =>
    unfold firstOccurrences
    split
    next hk =>
      simp only [Bool.and_eq_true, Bool.not_eq_true', List.contains_eq_mem,
        decide_eq_false_iff_not] at hk
      rw [List.mem_cons, List.mem_cons, ih, List.mem_cons]
      by_cases hn : n = k
      · subst hn
        simp [hk]
      · simp [hn]
    next hk =>
      rw [List.mem_cons, ih]
      refine and_congr_left fun ⟨hkeep, hseen⟩ => (or_iff_right ?_).symm
      rintro rfl
      exact hk (by simp [hkeep, hseen])

lemma nodup_firstOccurrences (keep : Int → Bool) (seen numbers : List Int) :
    (firstOccurrences keep seen numbers).Nodup := by
  induction numbers generalizing seen with
  | nil => exact List.nodup_nil
  | cons k rest ih =>
    unfold firstOccurrences
    split
    · refine List.nodup_cons.2 ⟨fun hk => ?_, ih _⟩
      exact (mem_firstOccurrences.1 hk).2.2 List.mem_cons_self
    · exact ih _

lemma length_firstOccurrences_le (keep : Int → Bool) (seen numbers : List Int) :
    (firstOccurrences keep seen numbers).length ≤ numbers.length := by
  induction numbers generalizing seen with
  | nil => exact le_rfl
  | cons k rest ih =>
    unfold firstOccurrences
    split
    · exact Nat.succ_le_succ (ih _)
    · exact (ih _).trans (Nat.le_succ _)

/-- `firstOccurrences` of distinct numbers that are all kept. -/
lemma firstOccurrences_eq_self {keep : Int → Bool} {seen numbers : List Int}
    (hnodup : numbers.Nodup) (hkeep : ∀ n ∈ numbers, keep n = true ∧ n ∉ seen) :
    firstOccurrences keep seen numbers = numbers := by
  induction numbers generalizing seen with
  | nil => rfl
  | cons k rest ih =>
    obtain ⟨hnew, hnodup⟩ := List.nodup_cons.1 hnodup
    obtain ⟨hk, hrest⟩ := List.forall_mem_cons.1 hkeep
    unfold firstOccurrences
    rw [if_pos (by simp [hk]), ih hnodup]
    intro n hn
    refine ⟨(hrest n hn).1, ?_⟩
    rw [List.mem_cons, not_or]
    exact ⟨fun heq => hnew (heq ▸ hn), (hrest n hn).2⟩

/-! ## Steps on a map that has columns -/

/-- The number of the plot one step away, on a map with columns. -/
def beside? (m : HexMap) (p : Plot) (offset : Int × Int) : Option Int :=
  if p.y + offset.2 < 0 ∨ m.height ≤ p.y + offset.2 then none
  else some (m.indexOf ((p.x + offset.1).fmod m.width) (p.y + offset.2))

lemma beside?_eq_some {n : Int} :
    m.beside? p offset = some n ↔ 0 ≤ p.y + offset.2 ∧ p.y + offset.2 < m.height ∧
      m.indexOf ((p.x + offset.1).fmod m.width) (p.y + offset.2) = n := by
  unfold beside?
  split
  next hout => exact ⟨nofun, fun ⟨hlow, hhigh, _⟩ => by omega⟩
  next hin =>
    rw [Option.some_inj]
    exact ⟨fun h => ⟨by omega, by omega, h⟩, fun h => h.2.2⟩

/-- The numbers of the plots beside a plot. -/
def beside (m : HexMap) (p : Plot) : List Int :=
  (offsetsInRow p.y).filterMap (m.beside? p)

lemma length_beside_le (m : HexMap) (p : Plot) : (m.beside p).length ≤ 6 := by
  have hoffsets : (offsetsInRow p.y).length = 6 := by
    unfold offsetsInRow
    split
    · rfl
    · rfl
  rw [← hoffsets]
  exact List.length_filterMap_le _ _

lemma steps_eq (hwidth : m.width ≠ 0) (p : Plot) : m.steps p = .ok (m.beside p) := by
  have hstep : m.step? p = fun offset => .ok (m.beside? p offset) := by
    funext offset
    simp only [step?, beside?, if_neg hwidth]
    split
    · rfl
    · rfl
  have hsteps : (offsetsInRow p.y).mapM (m.step? p)
      = .ok ((offsetsInRow p.y).map (m.beside? p)) := by
    rw [hstep]
    exact List.mapM_pure
  have hdropped : ((offsetsInRow p.y).map (m.beside? p)).filterMap id = m.beside p := by
    rw [List.filterMap_map]
    rfl
  unfold steps
  rw [hsteps, ← hdropped]
  rfl

/-- `neighbours` of a stored plot are the plots of `beside`, without itself and without
repetitions. -/
lemma neighbours_eq (hwidth : m.width ≠ 0) (hp : m.plot? index = some p) :
    m.neighbours index
      = .ok ((firstOccurrences (· != index) [] (m.beside p)).filterMap m.plot?) := by
  unfold neighbours
  rw [hp]
  show (m.steps p >>= _) = _
  rw [steps_eq hwidth]
  rfl

/-- A plot is among the `neighbours` iff it is another one and some offset leads to its number. -/
lemma mem_neighbours (hm : m.WellIndexed) (hwidth : m.width ≠ 0) (hp : m.plot? index = some p)
    {plots : List Plot} (hplots : m.neighbours index = .ok plots) :
    q ∈ plots ↔ m.plot? q.index = some q ∧ q.index ≠ index ∧
      ∃ offset ∈ offsetsInRow p.y, m.beside? p offset = some q.index := by
  rw [neighbours_eq hwidth hp] at hplots
  obtain rfl := Except.ok.inj hplots
  rw [List.mem_filterMap]
  constructor
  · rintro ⟨n, hn, hq⟩
    obtain rfl := hm n q hq
    obtain ⟨hbeside, hother, -⟩ := mem_firstOccurrences.1 hn
    exact ⟨hq, by simpa using hother, List.mem_filterMap.1 hbeside⟩
  · rintro ⟨hq, hother, hbeside⟩
    refine ⟨q.index, mem_firstOccurrences.2 ⟨List.mem_filterMap.2 hbeside, ?_, ?_⟩, hq⟩
    · simpa using hother
    · exact List.not_mem_nil

/-- Distinct numbers have distinct plots on a map that is `WellIndexed`. -/
lemma nodup_filterMap_plot? (hm : m.WellIndexed) {numbers : List Int} (h : numbers.Nodup) :
    (numbers.filterMap m.plot?).Nodup := by
  refine h.filterMap fun n n' p hn hn' => ?_
  rw [← hm n p hn, ← hm n' p hn']

/-- `neighbours` on a map with columns: at most six, distinct, stored under their numbers and not
the plot itself. -/
lemma exists_neighbours (hm : m.WellIndexed) (hwidth : m.width ≠ 0) (index : Int) :
    ∃ plots, m.neighbours index = .ok plots ∧ plots.length ≤ 6 ∧ plots.Nodup ∧
      ∀ q ∈ plots, m.plot? index ≠ some q ∧ m.plot? q.index = some q := by
  cases hp : m.plot? index with
  | none =>
    refine ⟨[], ?_, Nat.zero_le 6, List.nodup_nil, by simp⟩
    unfold neighbours
    rw [hp]
  | some p =>
    have hplots := neighbours_eq hwidth hp
    refine ⟨_, hplots, ?_, nodup_filterMap_plot? hm (nodup_firstOccurrences _ _ _), ?_⟩
    · exact (List.length_filterMap_le _ _).trans
        ((length_firstOccurrences_le _ _ _).trans (length_beside_le m p))
    · intro q hq
      obtain ⟨hstored, hother, -⟩ := (mem_neighbours hm hwidth hp hplots).1 hq
      refine ⟨fun heq => hother ?_, hstored⟩
      obtain rfl := Option.some.inj heq
      exact hm index p hp

/-! ## Plots whose numbers follow from their columns and rows -/

/-- A plot lies on the map, and its number is the one of its column and row. -/
structure Places (m : HexMap) (p : Plot) : Prop where
  number : p.index = p.y * m.width + p.x
  column : 0 ≤ p.x ∧ p.x < m.width
  row : 0 ≤ p.y ∧ p.y < m.height

/-- A map with columns on which every stored plot has its place. -/
structure Gridded (m : HexMap) : Prop where
  width_pos : 1 ≤ m.width
  places : ∀ index p, m.plot? index = some p → m.Places p

/-- Every place of a map has a plot. -/
def Complete (m : HexMap) : Prop :=
  ∀ y, 0 ≤ y → y < m.height → ∀ x, 0 ≤ x → x < m.width → (m.plot? (m.indexOf x y)).isSome

/-- `indexOf` is injective on the columns of the map. -/
lemma indexOf_inj {x x' y y' : Int} (hx : 0 ≤ x ∧ x < m.width) (hx' : 0 ≤ x' ∧ x' < m.width)
    (h : m.indexOf x y = m.indexOf x' y') : x = x' ∧ y = y' := by
  unfold indexOf at h
  have hcolumn : x = x' := by
    have hmod := congrArg (· % m.width) h
    simpa [Int.emod_eq_of_lt hx.1 hx.2, Int.emod_eq_of_lt hx'.1 hx'.2] using hmod
  subst hcolumn
  have hwidth : m.width ≠ 0 := by omega
  exact ⟨rfl, Int.eq_of_mul_eq_mul_right hwidth (by omega)⟩

lemma fmod_width_bounds (hwidth : 1 ≤ m.width) (x : Int) :
    0 ≤ x.fmod m.width ∧ x.fmod m.width < m.width :=
  ⟨Int.fmod_nonneg_of_pos x (by omega), Int.fmod_lt_of_pos x (by omega)⟩

/-- An offset leads to `q` iff `q.y = p.y + dy` and `q.x` is `p.x + dx` modulo the width. -/
lemma Places.beside?_eq_some (hwidth : 1 ≤ m.width) (hq : m.Places q) :
    m.beside? p offset = some q.index ↔
      q.y = p.y + offset.2 ∧ q.x = (p.x + offset.1).fmod m.width := by
  rw [HexMap.beside?_eq_some, hq.number]
  constructor
  · rintro ⟨-, -, hnumber⟩
    obtain ⟨hcolumn, hrow⟩ := indexOf_inj (fmod_width_bounds hwidth _) hq.column hnumber
    exact ⟨hrow.symm, hcolumn.symm⟩
  · rintro ⟨hrow, hcolumn⟩
    rw [← hrow, ← hcolumn]
    exact ⟨hq.row.1, hq.row.2, rfl⟩

/-- The reversed offset leads back, also across the seam. -/
lemma Places.beside?_reverse (hwidth : 1 ≤ m.width) (hp : m.Places p) (hq : m.Places q)
    {dx dy : Int} (h : m.beside? p (dx, dy) = some q.index) :
    m.beside? q (-dx, -dy) = some p.index := by
  rw [hq.beside?_eq_some hwidth] at h
  rw [hp.beside?_eq_some hwidth]
  obtain ⟨hrow, hcolumn⟩ := h
  refine ⟨by simp only at hrow ⊢; omega, ?_⟩
  have hpos : 0 ≤ m.width := by omega
  rw [hcolumn, Int.fmod_eq_emod_of_nonneg _ hpos, Int.fmod_eq_emod_of_nonneg _ hpos]
  rw [Int.emod_add_emod, Int.add_neg_cancel_right, Int.emod_eq_of_lt hp.column.1 hp.column.2]

/-- A plot is among the neighbours of another one. -/
def Adjacent (m : HexMap) (p q : Plot) : Prop :=
  ∃ plots, m.neighbours p.index = .ok plots ∧ q ∈ plots

lemma adjacent_iff (hm : m.WellIndexed) (hwidth : m.width ≠ 0) (hp : m.plot? p.index = some p) :
    m.Adjacent p q ↔ m.plot? q.index = some q ∧ q.index ≠ p.index ∧
      ∃ offset ∈ offsetsInRow p.y, m.beside? p offset = some q.index := by
  obtain ⟨plots, hplots, -⟩ := exists_neighbours hm hwidth p.index
  rw [← mem_neighbours hm hwidth hp hplots]
  constructor
  · rintro ⟨plots', hplots', hq⟩
    obtain rfl := Except.ok.inj (hplots.symm.trans hplots')
    exact hq
  · exact fun hq => ⟨plots, hplots, hq⟩

lemma Adjacent.symm (hm : m.WellIndexed) (hgrid : m.Gridded) (hp : m.plot? p.index = some p)
    (h : m.Adjacent p q) : m.Adjacent q p := by
  have hwidth : m.width ≠ 0 := by have := hgrid.width_pos; omega
  obtain ⟨hq, hother, ⟨dx, dy⟩, hoffset, hbeside⟩ := (adjacent_iff hm hwidth hp).1 h
  have hplaceq := hgrid.places _ q hq
  have hplacep := hgrid.places _ p hp
  have hrow : q.y = p.y + dy := ((hplaceq.beside?_eq_some hgrid.width_pos).1 hbeside).1
  refine (adjacent_iff hm hwidth hq).2 ⟨hp, hother.symm, (-dx, -dy), ?_, ?_⟩
  · rw [hrow]
    exact reverse_mem_offsetsInRow hoffset
  · exact hplacep.beside?_reverse hgrid.width_pos hplaceq hbeside

/-! ## Maps without gaps -/

/-- Three or more columns wide, offsets that are `OffsetsApart` lead to different numbers. -/
lemma number_ne_of_apart (hwidth : 3 ≤ m.width) {o o' : Int × Int} (h : OffsetsApart o o')
    (p : Plot) : m.indexOf ((p.x + o.1).fmod m.width) (p.y + o.2)
      ≠ m.indexOf ((p.x + o'.1).fmod m.width) (p.y + o'.2) := by
  intro heq
  obtain ⟨hcolumn, hrow⟩ :=
    indexOf_inj (fmod_width_bounds (by omega) _) (fmod_width_bounds (by omega) _) heq
  rcases h with h | ⟨hne, hle, hle'⟩
  · omega
  · -- columns that are congruent modulo the width differ by a multiple of it
    have hpos : 0 ≤ m.width := by omega
    rw [Int.fmod_eq_emod_of_nonneg _ hpos, Int.fmod_eq_emod_of_nonneg _ hpos,
      Int.emod_eq_emod_iff_emod_sub_eq_zero] at hcolumn
    have hzero :=
      Int.eq_zero_of_dvd_of_natAbs_lt_natAbs (Int.dvd_of_emod_eq_zero hcolumn) (by omega)
    omega

/-- Three or more columns wide, the numbers of `beside` and of the plot are distinct. -/
lemma nodup_index_cons_beside (hwidth : 3 ≤ m.width) (hp : m.Places p) :
    (p.index :: m.beside p).Nodup := by
  have hstay : m.indexOf ((p.x + 0).fmod m.width) (p.y + 0) = p.index := by
    have hpos : 0 ≤ m.width := by omega
    rw [hp.number, Int.add_zero, Int.add_zero, Int.fmod_eq_emod_of_nonneg _ hpos,
      Int.emod_eq_of_lt hp.column.1 hp.column.2]
    rfl
  obtain ⟨hfirst, hrest⟩ := List.pairwise_cons.1 (pairwise_offsetsApart p.y)
  refine List.nodup_cons.2 ⟨fun hmem => ?_, hrest.filterMap _ fun o o' hapart n hn n' hn' => ?_⟩
  · obtain ⟨o, ho, hn⟩ := List.mem_filterMap.1 hmem
    have hne := number_ne_of_apart hwidth (hfirst o ho) p
    rw [hstay, (HexMap.beside?_eq_some.1 hn).2.2] at hne
    exact hne rfl
  · rw [← (HexMap.beside?_eq_some.1 hn).2.2, ← (HexMap.beside?_eq_some.1 hn').2.2]
    exact number_ne_of_apart hwidth hapart p

/-- The number of offsets that stay within the rows. -/
lemma length_beside (hp : m.Places p) :
    (m.beside p).length
      = if m.height = 1 then 2 else if p.y = 0 ∨ p.y = m.height - 1 then 4 else 6 := by
  obtain ⟨hlow, hhigh⟩ := hp.row
  have hstays (offset : Int × Int) : (m.beside? p offset).isSome
      = decide (0 ≤ p.y + offset.2 ∧ p.y + offset.2 < m.height) := by
    rw [Bool.eq_iff_iff, Option.isSome_iff_exists, decide_eq_true_iff]
    simp only [HexMap.beside?_eq_some]
    exact ⟨fun ⟨_, hlow, hhigh, _⟩ => ⟨hlow, hhigh⟩, fun ⟨hlow, hhigh⟩ => ⟨_, hlow, hhigh, rfl⟩⟩
  unfold beside
  rw [List.length_filterMap_eq_countP]
  simp only [hstays]
  rw [countP_offsetsInRow fun dy => decide (0 ≤ p.y + dy ∧ p.y + dy < m.height)]
  have hhere : decide (0 ≤ p.y + 0 ∧ p.y + 0 < m.height) = true := by simp [hlow, hhigh]
  rw [hhere]
  by_cases hnorth : p.y = 0
  · by_cases hsouth : p.y = m.height - 1
    · rw [if_pos (by omega), decide_eq_false (by omega), decide_eq_false (by omega)]
      rfl
    · rw [if_neg (by omega), if_pos (by omega), decide_eq_false (by omega),
        decide_eq_true (by omega)]
      rfl
  · by_cases hsouth : p.y = m.height - 1
    · rw [if_neg (by omega), if_pos (by omega), decide_eq_true (by omega),
        decide_eq_false (by omega)]
      rfl
    · rw [if_neg (by omega), if_neg (by omega), decide_eq_true (by omega),
        decide_eq_true (by omega)]
      rfl

/-- On a map that is `Gridded`, `Complete` and three or more columns wide, all of `beside` are
neighbours. -/
lemma length_neighbours (hgrid : m.Gridded) (hcomplete : m.Complete) (hwidth : 3 ≤ m.width)
    (hp : m.plot? p.index = some p) {plots : List Plot}
    (hplots : m.neighbours p.index = .ok plots) : plots.length = (m.beside p).length := by
  have hplace := hgrid.places _ p hp
  obtain ⟨hother, hnodup⟩ := List.nodup_cons.1 (nodup_index_cons_beside hwidth hplace)
  rw [neighbours_eq (by omega) hp] at hplots
  obtain rfl := Except.ok.inj hplots
  have hkept : firstOccurrences (· != p.index) [] (m.beside p) = m.beside p := by
    refine firstOccurrences_eq_self hnodup fun n hn => ⟨?_, List.not_mem_nil⟩
    rw [bne_iff_ne]
    rintro rfl
    exact hother hn
  rw [hkept, List.filterMap_length_eq_length]
  intro n hn
  obtain ⟨offset, -, hbeside⟩ := List.mem_filterMap.1 hn
  obtain ⟨hlow, hhigh, rfl⟩ := HexMap.beside?_eq_some.1 hbeside
  obtain ⟨hleft, hright⟩ := fmod_width_bounds hgrid.width_pos (p.x + offset.1)
  exact hcomplete _ hlow hhigh _ hleft hright

/-! ## Neighbourhood -/

/-- The map of `Snapshot.ofJson` is `WellIndexed`. On such a map, if it has columns, `neighbours`
are at most six different plots of the map and not the plot itself; if it is `Gridded`, `Adjacent`
is symmetric; and if it is `Complete` too and three or more columns wide, there are 2 in a single
row, 4 on the northern and southern edges and 6 elsewhere. -/
theorem neighbours_undirected :
    (∀ json g, Snapshot.ofJson json = .ok g → g.map.WellIndexed) ∧
    ∀ m : HexMap, m.WellIndexed → m.width ≠ 0 →
      (∀ index, ∃ plots, m.neighbours index = .ok plots ∧ plots.length ≤ 6 ∧ plots.Nodup ∧
        ∀ q ∈ plots, m.plot? index ≠ some q ∧ m.plot? q.index = some q) ∧
      (m.Gridded → ∀ p q, m.plot? p.index = some p → m.plot? q.index = some q →
        (m.Adjacent p q ↔ m.Adjacent q p)) ∧
      (m.Gridded → m.Complete → 3 ≤ m.width → ∀ p, m.plot? p.index = some p →
        ∃ plots, m.neighbours p.index = .ok plots ∧ plots.length
          = if m.height = 1 then 2 else if p.y = 0 ∨ p.y = m.height - 1 then 4 else 6) := by
  refine ⟨fun json g hg => Snapshot.wellIndexed_of_ofJson hg, fun m hm hwidth => ⟨?_, ?_, ?_⟩⟩
  · exact exists_neighbours hm hwidth
  · exact fun hgrid p q hp hq => ⟨Adjacent.symm hm hgrid hp, Adjacent.symm hm hgrid hq⟩
  · intro hgrid hcomplete hthree p hp
    obtain ⟨plots, hplots, -⟩ := exists_neighbours hm hwidth p.index
    refine ⟨plots, hplots, ?_⟩
    rw [length_neighbours hgrid hcomplete hthree hp hplots]
    exact length_beside (hgrid.places _ p hp)

/-- The plots of two rows with three columns. -/
def straitPlots : List Plot :=
  [(0, 0), (1, 0), (2, 0), (0, 1), (1, 1), (2, 1)].map fun (x, y) => { index := y * 3 + x, x, y }

/-- A map of two rows with three columns. -/
def strait : HexMap :=
  ⟨3, 2, .ofList (straitPlots.map fun p => (p.index, p))⟩

/-- In `strait`, of two rows with three columns, plots 0 and 2 are `Adjacent` across the seam, and
every plot has four `neighbours`. -/
theorem strait_neighbours :
    strait.Adjacent { index := 0, x := 0, y := 0 } { index := 2, x := 2, y := 0 } ∧
    ∀ p, strait.plot? p.index = some p →
      ∃ plots, strait.neighbours p.index = .ok plots ∧ plots.length = 4 := by
  have hplots : ∀ p ∈ straitPlots,
      p.index = p.y * 3 + p.x ∧ (0 ≤ p.x ∧ p.x < 3) ∧ (0 ≤ p.y ∧ p.y < 2) := by decide
  have hgrid : strait.Gridded := by
    refine ⟨by decide, fun index p hp => ?_⟩
    obtain ⟨hnumber, hcolumn, hrow⟩ := hplots p (mem_of_plot?_ofList hp).1
    exact ⟨hnumber, hcolumn, hrow⟩
  have hcomplete : strait.Complete := by
    unfold Complete
    decide
  have hacross : strait.Adjacent { index := 2, x := 2, y := 0 } { index := 0, x := 0, y := 0 } :=
    ⟨_, rfl, List.mem_cons_self⟩
  obtain ⟨-, hsymm, hcount⟩ := neighbours_undirected.2 strait
    (wellIndexed_ofList 3 2 straitPlots) (by decide)
  refine ⟨(hsymm hgrid _ _ rfl rfl).1 hacross, fun p hp => ?_⟩
  obtain ⟨plots, hneighbours, hlength⟩ := hcount hgrid hcomplete (by decide) p hp
  refine ⟨plots, hneighbours, ?_⟩
  have hrow : 0 ≤ p.y ∧ p.y < 2 := (hgrid.places _ p hp).row
  have hedge : p.y = 0 ∨ p.y = strait.height - 1 := by
    change p.y = 0 ∨ p.y = 2 - 1
    omega
  rw [hlength, if_neg (by decide), if_pos hedge]

end HexMap

end PolicyForecast
