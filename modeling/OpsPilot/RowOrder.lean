import Mathlib.Data.List.Sort
import Mathlib.Data.Prod.Lex

/-! Queries over rows whose stored order is unknown: what a sort by a key, a limit and a
first match still determine. -/

namespace RowOrder

variable {Row Key Item : Type}

section
variable [LinearOrder Key] (key : Row → Key)

/-- Ascending keys; rows of equal key stay in the order they came in. -/
def sorted (rows : List Row) : List Row := rows.insertionSort (fun a b => key a ≤ key b)

def smaller (k : Key) (rows : List Row) : ℕ := rows.countP (key · < k)

theorem sorted_perm (rows : List Row) : (sorted key rows).Perm rows :=
  List.perm_insertionSort _ _

theorem sorted_pairwise (rows : List Row) :
    (sorted key rows).Pairwise fun a b => key a ≤ key b := by
  have total : Std.Total fun a b : Row => key a ≤ key b := ⟨fun a b => le_total (key a) (key b)⟩
  have transitive : IsTrans Row fun a b => key a ≤ key b := ⟨fun _ _ _ => le_trans⟩
  exact List.pairwise_insertionSort _ _

theorem smaller_perm {rows rows' : List Row} (perm : rows'.Perm rows) (k : Key) :
    smaller key k rows' = smaller key k rows :=
  perm.countP_eq _

theorem sorted_keys {rows rows' : List Row} (perm : rows'.Perm rows) :
    (sorted key rows').map key = (sorted key rows).map key := by
  have reordered : ((sorted key rows').map key).Perm ((sorted key rows).map key) :=
    (((sorted_perm key rows').trans perm).trans (sorted_perm key rows).symm).map key
  refine reordered.eq_of_pairwise (fun a b _ _ => le_antisymm) ?_ ?_
  · exact List.pairwise_map.mpr (sorted_pairwise key rows')
  · exact List.pairwise_map.mpr (sorted_pairwise key rows)

theorem smaller_le_index {rows : List Row} {i : ℕ} (inside : i < (sorted key rows).length) :
    smaller key (key (sorted key rows)[i]) rows ≤ i := by
  rw [← smaller_perm key (sorted_perm key rows)]
  have ordered := sorted_pairwise key rows
  generalize sorted key rows = l at inside ordered
  have late : (l.drop i).countP (key · < key l[i]) = 0 := by
    refine List.countP_eq_zero.mpr fun r mem => ?_
    rw [List.drop_eq_getElem_cons inside] at mem
    rw [← List.take_append_drop i l, List.drop_eq_getElem_cons inside, List.pairwise_append,
      List.pairwise_cons] at ordered
    rcases List.mem_cons.mp mem with rfl | later
    · simp
    · simpa using ordered.2.1.1 r later
  have early : (l.take i).countP (key · < key l[i]) ≤ i :=
    List.countP_le_length.trans (List.length_take_le i l)
  have split : smaller key (key l[i]) l =
      (l.take i).countP (key · < key l[i]) + (l.drop i).countP (key · < key l[i]) := by
    rw [smaller, ← List.countP_append, List.take_append_drop]
  omega

theorem sorted_getElem?_first (a : Row) (rest : List Row) :
    (sorted key (a :: rest))[smaller key (key a) (a :: rest)]? = some a := by
  have here : smaller key (key a) (a :: rest) = smaller key (key a) rest := by
    simp [smaller]
  have before : ((sorted key rest).takeWhile fun b => ¬ key a ≤ key b).length =
      smaller key (key a) rest := by
    rw [← smaller_perm key (sorted_perm key rest)]
    have ordered := sorted_pairwise key rest
    generalize sorted key rest = l at ordered
    induction l with
    | nil => rfl
    | cons b l ih =>
      rw [List.pairwise_cons] at ordered
      by_cases less : key b < key a
      · have later := ih ordered.2
        simp only [not_le, smaller] at later
        simp [smaller, less, later]
      · have none_smaller : smaller key (key a) (b :: l) = 0 := by
          refine List.countP_eq_zero.mpr fun r mem => ?_
          rcases List.mem_cons.mp mem with rfl | later
          · simpa using less
          · simpa using (not_lt.mp less).trans (ordered.1 r later)
        rw [none_smaller]
        simp [not_lt.mp less]
  rw [sorted, List.insertionSort_cons, ← sorted, List.orderedInsert_eq_take_drop,
    List.getElem?_append_right (by rw [before, here]), before, here, Nat.sub_self]
  rfl

def TiesAgree (item : Row → Item) (limit : ℕ) (rows : List Row) : Prop :=
  ∀ a ∈ rows, ∀ b ∈ rows, key a = key b → smaller key (key a) rows < limit → item a = item b

theorem take_sorted_determined (item : Row → Item) (limit : ℕ) (rows : List Row) :
    (∀ rows' : List Row, rows'.Perm rows →
      ((sorted key rows').take limit).map item = ((sorted key rows).take limit).map item) ↔
      TiesAgree key item limit rows := by
  constructor
  · intro determined a here b there tie below
    have first : ∀ r ∈ rows, key r = key a →
        (((sorted key rows).take limit).map item)[smaller key (key a) rows]? = some (item r) := by
      intro r mem same
      obtain ⟨front, back, rfl⟩ := List.append_of_mem mem
      have perm : (r :: (front ++ back)).Perm (front ++ r :: back) := List.perm_middle.symm
      rw [← determined _ perm, ← smaller_perm key perm, List.getElem?_map,
        List.getElem?_take_of_lt (by rwa [smaller_perm key perm]), ← same,
        sorted_getElem?_first]
      rfl
    exact Option.some.inj ((first a here rfl).symm.trans (first b there tie.symm))
  · intro agree rows' perm
    have keys := sorted_keys key perm
    have sizes : (sorted key rows').length = (sorted key rows).length := by
      simpa using congrArg List.length keys
    refine List.ext_getElem (by simp [sizes]) fun i inside' inside => ?_
    rw [List.length_map, List.length_take] at inside inside'
    rw [List.getElem_map, List.getElem_map, List.getElem_take, List.getElem_take]
    have below : i < (sorted key rows).length := by omega
    have below' : i < (sorted key rows').length := by omega
    have tie : key (sorted key rows')[i] = key (sorted key rows)[i] := by
      have same := congrArg (·[i]?) keys
      simpa [below, below'] using same
    have mem : (sorted key rows)[i] ∈ rows :=
      (sorted_perm key rows).subset (List.getElem_mem below)
    have mem' : (sorted key rows')[i] ∈ rows :=
      perm.subset ((sorted_perm key rows').subset (List.getElem_mem below'))
    refine agree _ mem' _ mem tie ?_
    rw [tie]
    have counted := smaller_le_index key below
    omega

theorem sorted_determined (item : Row → Item) (rows : List Row) :
    (∀ rows' : List Row, rows'.Perm rows →
      (sorted key rows').map item = (sorted key rows).map item) ↔
      ∀ a ∈ rows, ∀ b ∈ rows, key a = key b → item a = item b := by
  have whole : ∀ rows', rows'.Perm rows → (sorted key rows').take rows.length = sorted key rows' :=
    fun rows' perm => List.take_of_length_le
      (((sorted_perm key rows').trans perm).length_eq.le)
  have counted : ∀ a ∈ rows, smaller key (key a) rows < rows.length := by
    intro a mem
    refine lt_of_le_of_ne List.countP_le_length fun full => ?_
    have every := List.countP_eq_length.mp full a mem
    simp at every
  have determined := take_sorted_determined key item rows.length rows
  constructor
  · intro free a here b there tie
    refine determined.mp (fun rows' perm => ?_) a here b there tie (counted a here)
    rw [whole rows' perm, whole rows (List.Perm.refl rows), free rows' perm]
  · intro agree rows' perm
    have same := determined.mpr (fun a here b there tie _ => agree a here b there tie) rows' perm
    rwa [whole rows' perm, whole rows (List.Perm.refl rows)] at same

end

theorem find?_determined (holds : Row → Bool) (item : Row → Item) (rows : List Row) :
    (∀ rows' : List Row, rows'.Perm rows →
      (rows'.find? holds).map item = (rows.find? holds).map item) ↔
      ∀ a ∈ rows, ∀ b ∈ rows, holds a = true → holds b = true → item a = item b := by
  constructor
  · intro determined a here b there matched matched'
    have first : ∀ r ∈ rows, holds r = true →
        (rows.find? holds).map item = some (item r) := by
      intro r mem found
      obtain ⟨front, back, rfl⟩ := List.append_of_mem mem
      rw [← determined (r :: (front ++ back)) List.perm_middle.symm, List.find?_cons_of_pos found]
      rfl
    exact Option.some.inj ((first a here matched).symm.trans (first b there matched'))
  · intro agree rows' perm
    cases found : rows.find? holds with
    | none =>
      have nowhere := List.find?_eq_none.mp found
      rw [List.find?_eq_none.mpr fun r mem => nowhere r (perm.subset mem)]
    | some a =>
      have here := List.mem_of_find?_eq_some found
      have matched := List.find?_some found
      cases found' : rows'.find? holds with
      | none => exact absurd matched (List.find?_eq_none.mp found' a (perm.symm.subset here))
      | some b =>
        exact congrArg some (agree b (perm.subset (List.mem_of_find?_eq_some found')) a here
          (List.find?_some found') matched)

theorem filter_determined (selects : Row → Bool) (rows : List Row) (holds : List Row → Prop) :
    (∀ rows' : List Row, rows'.Perm rows → holds (rows'.filter selects)) ↔
      ∀ selected : List Row, selected.Perm (rows.filter selects) → holds selected := by
  constructor
  · intro determined selected perm
    have whole : (selected ++ rows.filter fun r => !selects r).Perm rows :=
      (perm.append_right _).trans (List.filter_append_perm _ _)
    have same : (selected ++ rows.filter fun r => !selects r).filter selects = selected := by
      have chosen : selected.filter selects = selected :=
        List.filter_eq_self.mpr fun r mem => (List.mem_filter.mp (perm.subset mem)).2
      have others : (rows.filter fun r => !selects r).filter selects = [] := by
        simp [List.filter_filter]
      rw [List.filter_append, chosen, others, List.append_nil]
    rw [← same]
    exact determined _ whole
  · exact fun determined rows' perm => determined _ (perm.filter selects)

end RowOrder
