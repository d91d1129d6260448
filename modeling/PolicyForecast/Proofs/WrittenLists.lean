import Mathlib.Data.List.DropRight
import Mathlib.Tactic.Lemma
import PolicyForecast.Rules.Argument
import PolicyForecast.Yield.Delta

/-!
# Lists that are written with commas

A list can be written in many ways: with any blanks around its items, and with any number of pieces
between the commas that are blank and write nothing (`Text.Lists`). What is read from a text is
never empty, has no commas and no blanks at its ends (`Text.IsItem`), and a list of such items is
read back from any of its written forms, whatever blanks the items have inside
(`Text.items_eq_iff`).

Main statement: `Text.written_lists_exact`, of yield types and of arguments.
-/

namespace PolicyForecast.Text

/-! ## Blanks at the ends -/

/-- A text is blank throughout. -/
def Blank (cs : List Char) : Prop :=
  ∀ c ∈ cs, isBlank c = true

/-- A text has no blank at either end. -/
structure Trimmed (cs : List Char) : Prop where
  first : ∀ c ∈ cs.head?, isBlank c = false
  last : ∀ c ∈ cs.getLast?, isBlank c = false

variable {cs before after piece : List Char}

lemma strip_eq (cs : List Char) : strip cs = (cs.dropWhile isBlank).rdropWhile isBlank := rfl

lemma exists_strip (cs : List Char) :
    ∃ before after, Blank before ∧ Blank after ∧ cs = before ++ strip cs ++ after := by
  refine ⟨cs.takeWhile isBlank, (cs.dropWhile isBlank).rtakeWhile isBlank,
    fun c hc => List.mem_takeWhile_imp hc, fun c hc => List.mem_rtakeWhile_imp hc, ?_⟩
  rw [List.append_assoc, strip_eq, List.rdropWhile_append_rtakeWhile,
    List.takeWhile_append_dropWhile]

lemma trimmed_strip (cs : List Char) : Trimmed (strip cs) where
  first := by
    intro c hc
    -- the first character that is left has not been stripped at the front
    obtain ⟨tail, htail⟩ := List.rdropWhile_prefix isBlank (cs.dropWhile isBlank)
    have hhead := List.head?_dropWhile_not isBlank cs
    have hfirst : (cs.dropWhile isBlank).head? = some c := by
      rw [← htail, ← strip_eq, List.head?_append, Option.mem_def.1 hc]
      rfl
    rw [hfirst] at hhead
    simpa using hhead
  last := by
    intro c hc
    obtain ⟨hne, hlast⟩ := List.mem_getLast?_eq_getLast hc
    rw [hlast]
    exact Bool.eq_false_iff.2 (List.rdropWhile_last_not isBlank (cs.dropWhile isBlank) hne)

lemma strip_of_blank (h : Blank cs) : strip cs = [] := by
  have hdrop : cs.dropWhile isBlank = [] := List.dropWhile_eq_nil_iff.2 h
  rw [strip_eq, hdrop, List.rdropWhile_nil]

/-- `strip` takes away the blanks around a text that is `Trimmed`. -/
lemma strip_surrounded (hbefore : Blank before) (hafter : Blank after) (htrimmed : Trimmed cs) :
    strip (before ++ cs ++ after) = cs := by
  cases cs with
  | nil =>
    refine strip_of_blank fun c hc => ?_
    rw [List.append_nil, List.mem_append] at hc
    exact hc.elim (hbefore c) (hafter c)
  | cons first rest =>
    have hfront : (before ++ (first :: rest) ++ after).dropWhile isBlank
        = (first :: rest) ++ after := by
      rw [List.append_assoc, List.dropWhile_append_of_pos hbefore, List.cons_append]
      exact List.dropWhile_cons_of_neg (by simp [htrimmed.first first rfl])
    have hback : ((first :: rest) ++ after).rdropWhile isBlank
        = (first :: rest).rdropWhile isBlank := by
      unfold List.rdropWhile
      rw [List.reverse_append, List.dropWhile_append_of_pos fun c hc =>
        hafter c (List.mem_reverse.1 hc)]
    rw [strip_eq, hfront, hback, List.rdropWhile_eq_self_iff]
    intro hne
    simp [htrimmed.last _ (List.getLast?_eq_some_getLast hne)]

lemma trimmed_iff : Trimmed cs ↔ strip cs = cs := by
  constructor
  · intro htrimmed
    simpa using strip_surrounded (List.forall_mem_nil _) (List.forall_mem_nil _) htrimmed
  · intro hstrip
    rw [← hstrip]
    exact trimmed_strip cs

/-! ## Pieces -/

lemma splitCommas_eq_splitOn (cs : List Char) : splitCommas cs = cs.splitOn ',' := by
  induction cs with
  | nil => rfl
  | cons c rest ih =>
    rw [splitCommas, List.splitOn_cons_eq_if_modifyHead, ih]
    by_cases hcomma : c = ','
    · rw [if_pos hcomma, if_pos (by simpa using hcomma)]
    · rw [if_neg hcomma, if_neg (by simpa using hcomma)]
      cases hpieces : rest.splitOn ',' with
      | nil => exact absurd hpieces (List.splitOn_ne_nil ',' rest)
      | cons piece pieces => rfl

lemma isBlank_comma : isBlank ',' = false := by decide

lemma Blank.not_mem (h : Blank cs) : ',' ∉ cs :=
  fun hmem => absurd (h ',' hmem) (by simp [isBlank_comma])

lemma not_mem_of_mem_splitCommas (h : piece ∈ splitCommas cs) : ',' ∉ piece := by
  induction cs generalizing piece with
  | nil =>
    obtain rfl := List.mem_singleton.1 h
    exact List.not_mem_nil
  | cons c rest ih =>
    unfold splitCommas at h
    split at h
    · rcases List.mem_cons.1 h with rfl | h
      · exact List.not_mem_nil
      · exact ih h
    next hc =>
      split at h
      · obtain rfl := List.mem_singleton.1 h
        simpa using Ne.symm hc
      next first others heq =>
        rcases List.mem_cons.1 h with rfl | h
        · rw [List.mem_cons, not_or]
          exact ⟨Ne.symm hc, ih (heq ▸ List.mem_cons_self)⟩
        · exact ih (heq ▸ List.mem_cons_of_mem first h)

/-- What pieces come to: they are stripped, and those that are then empty do not count. -/
def kept (pieces : List (List Char)) : List String :=
  ((pieces.map strip).filter (· ≠ [])).map String.ofList

lemma kept_cons_of_blank (h : Blank piece) (pieces : List (List Char)) :
    kept (piece :: pieces) = kept pieces := by
  unfold kept
  rw [List.map_cons, strip_of_blank h, List.filter_cons_of_neg (by simp)]

lemma kept_cons_of_strip (h : strip piece ≠ []) (pieces : List (List Char)) :
    kept (piece :: pieces) = String.ofList (strip piece) :: kept pieces := by
  unfold kept
  rw [List.map_cons, List.filter_cons_of_pos (by simpa using h), List.map_cons]

/-! ## Written lists -/

/-- A text can be an item of a list: it is not empty, has no commas and no blanks at its ends. -/
structure IsItem (item : String) : Prop where
  ne_empty : item ≠ ""
  noComma : ',' ∉ item.toList
  trimmed : Trimmed item.toList

/-- Pieces between commas write a list: each writes nothing and is blank, or it writes one item,
with blanks before and after. -/
inductive Write : (pieces items : List String) → Prop
  | nil : Write [] []
  | blank {piece : String} {pieces items : List String} (hblank : Blank piece.toList)
      (hrest : Write pieces items) : Write (piece :: pieces) items
  | item {before item after : String} {pieces items : List String} (hbefore : Blank before.toList)
      (hafter : Blank after.toList) (hrest : Write pieces items) :
      Write ((before ++ item ++ after) :: pieces) (item :: items)

/-- A text is a written form of a list. -/
def Lists (text : String) (items : List String) : Prop :=
  ∃ pieces, Write pieces items ∧ text = ",".intercalate pieces

variable {pieces items : List String} {text item : String}

/-- `kept` of pieces that `Write` items is these items. -/
lemma Write.kept_eq (h : Write pieces items) (hitems : ∀ item ∈ items, IsItem item) :
    kept (pieces.map String.toList) = items := by
  induction h with
  | nil => rfl
  | blank hblank _ ih => rw [List.map_cons, kept_cons_of_blank hblank, ih hitems]
  | @item before item after pieces items hbefore hafter _ ih =>
    obtain ⟨hitem, hrest⟩ := List.forall_mem_cons.1 hitems
    have hstrip : strip (before ++ item ++ after).toList = item.toList := by
      rw [String.toList_append, String.toList_append]
      exact strip_surrounded hbefore hafter hitem.trimmed
    have hne : strip (before ++ item ++ after).toList ≠ [] := by
      rw [hstrip]
      simpa using hitem.ne_empty
    rw [List.map_cons, kept_cons_of_strip hne, hstrip, String.ofList_toList, ih hrest]

lemma Write.not_mem (h : Write pieces items) (hitems : ∀ item ∈ items, IsItem item) :
    ∀ piece ∈ pieces, ',' ∉ piece.toList := by
  induction h with
  | nil => exact List.forall_mem_nil _
  | blank hblank _ ih => exact List.forall_mem_cons.2 ⟨hblank.not_mem, ih hitems⟩
  | @item before item after pieces items hbefore hafter _ ih =>
    obtain ⟨hitem, hrest⟩ := List.forall_mem_cons.1 hitems
    refine List.forall_mem_cons.2 ⟨?_, ih hrest⟩
    rw [String.toList_append, String.toList_append, List.mem_append, List.mem_append]
    exact fun hmem => hmem.elim (fun hmem => hmem.elim hbefore.not_mem hitem.noComma) hafter.not_mem

/-- Pieces without commas `Write` what is `kept` of them. -/
lemma write_kept {pieces : List (List Char)} (h : ∀ piece ∈ pieces, ',' ∉ piece) :
    Write (pieces.map String.ofList) (kept pieces) ∧ ∀ item ∈ kept pieces, IsItem item := by
  induction pieces with
  | nil => exact ⟨.nil, List.forall_mem_nil _⟩
  | cons piece pieces ih =>
    obtain ⟨hpiece, hrest⟩ := List.forall_mem_cons.1 h
    obtain ⟨hwrite, hitems⟩ := ih hrest
    obtain ⟨before, after, hbefore, hafter, hparts⟩ := exists_strip piece
    by_cases hempty : strip piece = []
    · have hblank : Blank piece := by
        intro c hc
        rw [hparts, hempty, List.append_nil, List.mem_append] at hc
        exact hc.elim (hbefore c) (hafter c)
      rw [kept_cons_of_blank hblank]
      exact ⟨.blank (by rwa [String.toList_ofList]) hwrite, hitems⟩
    · rw [kept_cons_of_strip hempty]
      constructor
      · have hwritten : String.ofList piece
            = String.ofList before ++ String.ofList (strip piece) ++ String.ofList after := by
          rw [← String.ofList_append, ← String.ofList_append, ← hparts]
        rw [List.map_cons, hwritten]
        exact .item (by rwa [String.toList_ofList]) (by rwa [String.toList_ofList]) hwrite
      · refine List.forall_mem_cons.2 ⟨⟨?_, ?_, ?_⟩, hitems⟩
        · simpa using hempty
        · rw [String.toList_ofList]
          intro hmem
          rw [hparts] at hpiece
          exact hpiece (List.mem_append_left _ (List.mem_append_right _ hmem))
        · rw [String.toList_ofList]
          exact trimmed_strip piece

/-- `Text.items` is the list of items that `Lists` relates to the text. -/
theorem items_eq_iff :
    Text.items text = items ↔ (∀ item ∈ items, IsItem item) ∧ Lists text items := by
  constructor
  · rintro rfl
    have hcommas : ∀ piece ∈ splitCommas text.toList, ',' ∉ piece :=
      fun _ => not_mem_of_mem_splitCommas
    obtain ⟨hwrite, hitems⟩ := write_kept hcommas
    refine ⟨hitems, _, hwrite, ?_⟩
    rw [← String.toList_inj, String.toList_intercalate, List.map_map, splitCommas_eq_splitOn]
    simp
  · rintro ⟨hitems, pieces, hwrite, rfl⟩
    show kept (splitCommas _) = items
    have hcomma : ",".toList = [','] := rfl
    rw [splitCommas_eq_splitOn, String.toList_intercalate, hcomma]
    by_cases hpieces : pieces = []
    · -- no pieces are the empty text, which has one piece, and that is blank
      subst hpieces
      cases hwrite
      rfl
    · rw [List.splitOn_intercalate ',' (List.forall_mem_map.2 (hwrite.not_mem hitems))
        (by simpa using hpieces)]
      exact hwrite.kept_eq hitems

/-! ## Items joined -/

lemma write_spaced (items : List String) : Write (items.map (" " ++ ·)) items := by
  induction items with
  | nil => exact .nil
  | cons item rest ih =>
    have hblank : Blank " ".toList := List.forall_mem_singleton.2 (by decide)
    rw [List.map_cons, ← String.append_empty (s := " " ++ item)]
    exact .item hblank (List.forall_mem_nil _) ih

lemma intercalate_spaced (first : String) (rest : List String) :
    ", ".intercalate (first :: rest) = ",".intercalate (first :: rest.map (" " ++ ·)) := by
  induction rest generalizing first with
  | nil => rfl
  | cons second rest ih =>
    have hcomma : ", " = "," ++ " " := rfl
    rw [List.map_cons, String.intercalate_cons_cons, String.intercalate_cons_cons,
      String.intercalate_cons_append, ← ih second, hcomma]
    simp only [String.append_assoc]

lemma lists_joined (items : List String) : Lists (", ".intercalate items) items := by
  cases items with
  | nil => exact ⟨[], .nil, rfl⟩
  | cons first rest =>
    refine ⟨first :: rest.map (" " ++ ·), ?_, intercalate_spaced first rest⟩
    have hnone : Blank "".toList := List.forall_mem_nil _
    have hwrite : Write (("" ++ first ++ "") :: rest.map (" " ++ ·)) (first :: rest) :=
      .item hnone hnone (write_spaced rest)
    simpa using hwrite

lemma items_joined (h : ∀ item ∈ items, IsItem item) :
    Text.items (", ".intercalate items) = items :=
  items_eq_iff.2 ⟨h, lists_joined items⟩

/-- `Text.items` of an item is the item alone. -/
lemma items_of_mem_items (h : item ∈ Text.items text) : Text.items item = [item] := by
  have hitem : ∀ only ∈ [item], IsItem only :=
    List.forall_mem_singleton.2 ((items_eq_iff.1 rfl).1 item h)
  simpa using items_joined hitem

/-- `yieldTypes text` is `l` iff `l` consists of items and `Lists` holds of the text and `l`, and so
for `Argument.list`. Both are read back from the items joined by `, `. -/
theorem written_lists_exact (text : Option String) (l : List String) (a : Argument) :
    (yieldTypes text = l ↔ (∀ item ∈ l, IsItem item) ∧ Lists (text.getD "") l) ∧
      (a.list = l ↔ (∀ item ∈ l, IsItem item) ∧ Lists (a.value.getD "") l) ∧
      yieldTypes (some (", ".intercalate (yieldTypes text))) = yieldTypes text ∧
      ({ a with value := some (", ".intercalate a.list) } : Argument).list = a.list := by
  refine ⟨items_eq_iff, items_eq_iff, ?_, ?_⟩
  · exact items_joined (items_eq_iff.1 rfl).1
  · exact items_joined (items_eq_iff.1 rfl).1

/-- A text with an item twice, blanks around items and blank pieces between them `Lists` its
items. -/
theorem spaced_list_read_back :
    Lists " YIELD_FOOD ,, \u00a0,YIELD GOLD,YIELD_FOOD,"
        ["YIELD_FOOD", "YIELD GOLD", "YIELD_FOOD"] ∧
      yieldTypes (some " YIELD_FOOD ,, \u00a0,YIELD GOLD,YIELD_FOOD,")
        = ["YIELD_FOOD", "YIELD GOLD", "YIELD_FOOD"] := by
  have hfood : IsItem "YIELD_FOOD" := ⟨by decide, by decide, trimmed_iff.2 rfl⟩
  have hgold : IsItem "YIELD GOLD" := ⟨by decide, by decide, trimmed_iff.2 rfl⟩
  have hnone : Blank "".toList := List.forall_mem_nil _
  have hspace : Blank " ".toList := List.forall_mem_singleton.2 (by decide)
  have hspaces : Blank " \u00a0".toList := List.all_eq_true.1 rfl
  have hwritten : Lists " YIELD_FOOD ,, \u00a0,YIELD GOLD,YIELD_FOOD,"
      ["YIELD_FOOD", "YIELD GOLD", "YIELD_FOOD"] :=
    ⟨_, .item hspace hspace (.blank hnone (.blank hspaces (.item hnone hnone
      (.item hnone hnone (.blank hnone .nil))))), rfl⟩
  have hitems : ∀ item ∈ ["YIELD_FOOD", "YIELD GOLD", "YIELD_FOOD"], IsItem item := by
    simp [hfood, hgold]
  exact ⟨hwritten, (written_lists_exact _ _ { name := none, value := none }).1.2
    ⟨hitems, hwritten⟩⟩

end PolicyForecast.Text
