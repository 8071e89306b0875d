import Mathlib.Data.List.Basic
import Mathlib.Data.List.Infix
import Mathlib.Data.List.TakeDrop

/-!
# Searching C strings

A pointer into a C string is the part of the string from there on: the search
functions return a suffix, and of two pointers into one string the earlier one
is the longer suffix.

* `before`, `within`: the order of pointers, and a bound on a search.
* `strchr`, `strrchr`, `strstr`: the library functions.
* `quoted`, `chain`: texts between quotation marks, one after the other.
* `blocks`: the parts between an opening and the next closing character.
* `occurrences`: how often a pattern occurs.
* `infix_flatMap_of_end`: a pattern in a stream of messages lies in one of them.
-/

namespace CText

variable {α : Type}

/-! ## Prefixes -/

section Prefix

variable {pat x y k s : List α} {q o : α}

/-- Two quoted texts agree when one is a prefix of the other. -/
theorem eq_of_quoted_start (hk : q ∉ k) (hy : q ∉ y) (h : k ++ [q] <+: y ++ q :: s) : k = y := by
  induction k generalizing y with
  | nil =>
    cases y with
    | nil => rfl
    | cons b y =>
      have hq := (List.cons_prefix_cons.mp h).1
      exact absurd (hq ▸ List.mem_cons_self) hy
  | cons a k ih =>
    rw [List.mem_cons, not_or] at hk
    cases y with
    | nil => exact absurd (List.cons_prefix_cons.mp h).1.symm hk.1
    | cons b y =>
      rw [List.mem_cons, not_or] at hy
      obtain ⟨rfl, hrest⟩ := List.cons_prefix_cons.mp h
      rw [ih hk.2 hy.2 hrest]

/-- A pattern without the separator lies on one side of it. -/
theorem prefix_append_cons (ho : o ∉ pat) (h : pat <+: x ++ o :: s) : pat <+: x := by
  induction pat generalizing x with
  | nil => exact List.nil_prefix
  | cons a pat ih =>
    rw [List.mem_cons, not_or] at ho
    cases x with
    | nil => exact absurd (List.cons_prefix_cons.mp h).1.symm ho.1
    | cons b x =>
      obtain ⟨rfl, hrest⟩ := List.cons_prefix_cons.mp h
      exact List.cons_prefix_cons.mpr ⟨rfl, ih ho.2 hrest⟩

/-! ## Pointers -/

/-- `p < q`, for two pointers into one string. -/
def before (p q : List α) : Prop := q.length < p.length

instance (p q : List α) : Decidable (before p q) := inferInstanceAs (Decidable (_ < _))

/-- The pointer `p`, unless it is NULL or not before `fin`. -/
def within (fin : List α) (p : Option (List α)) : Option (List α) :=
  p.filter fun p => before p fin

theorem before_append (hx : x ≠ []) : before (x ++ s) s := by
  unfold before
  rw [List.length_append]
  exact Nat.lt_add_of_pos_left (List.length_pos_iff.mpr hx)

theorem within_append (hx : x ≠ []) : within s (some (x ++ s)) = some (x ++ s) :=
  Option.filter_some_pos (decide_eq_true (before_append hx))

/-- Nothing inside `s` itself is before `s`. -/
theorem within_of_suffix {p : Option (List α)} (h : ∀ t, p = some t → t <:+ s) :
    within s p = none := by
  cases p with
  | none => rfl
  | some t =>
    have hno : ¬ before t s := not_lt.mpr (h t rfl).length_le
    exact Option.filter_some_neg (decide_eq_false hno)

end Prefix

/-- `s` between quotation marks. -/
def quoted (q : α) (s : List α) : List α := q :: (s ++ [q])

/-- The texts `ys`, each after a quotation mark, then one more, and `z`. -/
def chain (q : α) (ys : List (List α)) (z : List α) : List α :=
  ys.foldr (fun y s => q :: (y ++ s)) (q :: z)

@[simp] theorem chain_nil (q : α) (z : List α) : chain q [] z = q :: z := rfl

@[simp] theorem chain_cons (q : α) (y : List α) (ys : List (List α)) (z : List α) :
    chain q (y :: ys) z = q :: (y ++ chain q ys z) := rfl

theorem chain_append_tail (q : α) (ys : List (List α)) (z t : List α) :
    chain q ys z ++ t = chain q ys (z ++ t) := by
  induction ys with
  | nil => rfl
  | cons y ys ih => rw [chain_cons, chain_cons, List.cons_append, List.append_assoc, ih]

theorem chain_eq_append (q : α) (ys : List (List α)) (z : List α) :
    chain q ys z = chain q ys [] ++ z := by
  rw [chain_append_tail, List.nil_append]

theorem chain_append (q : α) (ys : List (List α)) (y : List α) (ys' : List (List α)) (z : List α) :
    chain q (ys ++ y :: ys') z = chain q ys (y ++ chain q ys' z) := by
  induction ys with
  | nil => rfl
  | cons y' ys ih => rw [List.cons_append, chain_cons, chain_cons, ih]

theorem notMem_chain {q o : α} {ys : List (List α)} {z : List α} (hq : o ≠ q)
    (hys : ∀ y ∈ ys, o ∉ y) (hz : o ∉ z) : o ∉ chain q ys z := by
  induction ys with
  | nil =>
    rw [chain_nil, List.mem_cons, not_or]
    exact ⟨hq, hz⟩
  | cons y ys ih =>
    obtain ⟨hy, hrest⟩ := List.forall_mem_cons.mp hys
    rw [chain_cons, List.mem_cons, List.mem_append, not_or, not_or]
    exact ⟨hq, hy, ih hrest⟩

/-- What follows the quoted text that was found. -/
theorem chain_drop_quoted (q : α) (k y : List α) (ys : List (List α)) (z : List α) :
    (chain q (k :: y :: ys) z).drop (quoted q k).length = y ++ chain q ys z := by
  have hsplit : chain q (k :: y :: ys) z = quoted q k ++ (y ++ chain q ys z) := by
    simp [quoted]
  rw [hsplit, List.drop_left]

theorem exists_chain_eq (q : α) (ys : List (List α)) (z : List α) :
    ∃ s, chain q ys z = q :: s := by
  cases ys with
  | nil => exact ⟨z, rfl⟩
  | cons y ys => exact ⟨_, rfl⟩

/-- Text in which each `q` comes right after an `esc`. -/
inductive Escaped (q esc : α) : List α → Prop
  | nil : Escaped q esc []
  | plain {b : α} {e : List α} : b ≠ q → Escaped q esc e → Escaped q esc (b :: e)
  | quote {e : List α} : Escaped q esc e → Escaped q esc (esc :: q :: e)

theorem Escaped.append {q esc : α} {e e' : List α} (h : Escaped q esc e) (h' : Escaped q esc e') :
    Escaped q esc (e ++ e') := by
  induction h with
  | nil => exact h'
  | plain hb _ ih => exact .plain hb ih
  | quote _ ih => exact .quote ih

/-- Text in which each escape character has a character after it that it escapes,
and each `q` is escaped. -/
inductive Paired (q esc : α) : List α → Prop
  | nil : Paired q esc []
  | plain {b : α} {e : List α} : b ≠ q → b ≠ esc → Paired q esc e → Paired q esc (b :: e)
  | pair {b : α} {e : List α} : Paired q esc e → Paired q esc (esc :: b :: e)

theorem Paired.append {q esc : α} {x y : List α} (h : Paired q esc x) (h' : Paired q esc y) :
    Paired q esc (x ++ y) := by
  induction h with
  | nil => exact h'
  | plain hq hesc _ ih => exact .plain hq hesc ih
  | pair _ ih => exact .pair ih

/-- An escape character at the end stands alone. -/
theorem Paired.not_concat {q esc : α} {x : List α} (h : Paired q esc x) :
    ¬ Paired q esc (x ++ [esc]) := by
  induction h with
  | nil =>
    intro hesc
    cases hesc with
    | plain _ hne => exact hne rfl
  | @plain _ e _ hb _ ih =>
    intro hesc
    rw [List.cons_append] at hesc
    generalize e ++ [esc] = t at hesc ih
    cases hesc with
    | plain _ _ hrest => exact ih hrest
    | pair => exact hb rfl
  | pair _ ih =>
    intro hesc
    cases hesc with
    | plain _ hne => exact hne rfl
    | pair hrest => exact ih hrest

theorem Paired.escaped {q esc : α} {x : List α} (h : Paired q esc x) (hne : esc ≠ q) :
    Escaped q esc x := by
  induction h with
  | nil => exact .nil
  | plain hq _ _ ih => exact .plain hq ih
  | @pair b _ _ ih =>
    by_cases hb : b = q
    · subst hb
      exact .quote ih
    · exact .plain hne (.plain hb ih)

variable [DecidableEq α]

/-! ## Definitions -/

def strchr (c : α) : List α → Option (List α)
  | [] => none
  | b :: s => if b = c then some (b :: s) else strchr c s

/-- The last suffix that begins with `c`. -/
def strrchr (c : α) : List α → Option (List α)
  | [] => none
  | b :: s => (strrchr c s).or (if b = c then some (b :: s) else none)

def strstr (pat : List α) : List α → Option (List α)
  | [] => if pat = [] then some [] else none
  | b :: s => if pat <+: b :: s then some (b :: s) else strstr pat s

/-- The parts of a string that begin with `o` and go on up to the next `c`,
which is left out. Inside a part a further `o` is an ordinary character. -/
def blocksFrom (o c : α) : Option (List α) → List α → List (List α)
  | _, [] => []
  | none, b :: s => if b = o then blocksFrom o c (some [b]) s else blocksFrom o c none s
  | some part, b :: s =>
    if b = c then part :: blocksFrom o c none s else blocksFrom o c (some (part ++ [b])) s

def blocks (o c : α) (s : List α) : List (List α) := blocksFrom o c none s

/-- The number of places where `pat` occurs in `s`. -/
def occurrences (pat : List α) : List α → ℕ
  | [] => 0
  | b :: s => (if pat <+: b :: s then 1 else 0) + occurrences pat s

/-! ## strchr -/

section strchr

variable {c o : α} {x s t : List α}

@[simp] theorem strchr_cons_self : strchr c (c :: s) = some (c :: s) := if_pos rfl

theorem strchr_cons_of_ne {b : α} (h : b ≠ c) : strchr c (b :: s) = strchr c s := if_neg h

theorem strchr_append_of_notMem (h : c ∉ x) : strchr c (x ++ s) = strchr c s := by
  induction x with
  | nil => rfl
  | cons b x ih =>
    rw [List.mem_cons, not_or] at h
    rw [List.cons_append, strchr_cons_of_ne (Ne.symm h.1), ih h.2]

theorem strchr_eq_none (h : c ∉ s) : strchr c s = none := by
  have hnil := strchr_append_of_notMem (s := []) h
  rwa [List.append_nil] at hnil

/-- A search that succeeds splits the string at the first occurrence. -/
theorem strchr_eq_some (h : strchr c s = some t) :
    ∃ x rest, s = x ++ c :: rest ∧ t = c :: rest ∧ c ∉ x := by
  induction s with
  | nil => cases h
  | cons b s ih =>
    by_cases hb : b = c
    · subst hb
      rw [strchr_cons_self] at h
      cases h
      exact ⟨[], s, rfl, rfl, List.not_mem_nil⟩
    · rw [strchr_cons_of_ne hb] at h
      obtain ⟨x, rest, rfl, rfl, hx⟩ := ih h
      refine ⟨b :: x, rest, rfl, rfl, ?_⟩
      rw [List.mem_cons, not_or]
      exact ⟨Ne.symm hb, hx⟩

theorem strchr_suffix (h : strchr c s = some t) : t <:+ s := by
  obtain ⟨x, rest, rfl, rfl, -⟩ := strchr_eq_some h
  exact List.suffix_append x (c :: rest)

theorem strchr_split (h : c ∈ s) : ∃ x rest, s = x ++ c :: rest ∧ c ∉ x := by
  cases hs : strchr c s with
  | some t =>
    obtain ⟨x, rest, hsplit, -, hx⟩ := strchr_eq_some hs
    exact ⟨x, rest, hsplit, hx⟩
  | none =>
    obtain ⟨x, rest, rfl⟩ := List.append_of_mem h
    induction x with
    | nil => simp at hs
    | cons b x ih =>
      by_cases hb : b = c
      · subst hb; simp at hs
      · rw [List.cons_append, strchr_cons_of_ne hb] at hs
        obtain ⟨y, rest', hsplit, hy⟩ := ih (by simp) hs
        refine ⟨b :: y, rest', by rw [List.cons_append, List.cons_append, hsplit], ?_⟩
        rw [List.mem_cons, not_or]
        exact ⟨Ne.symm hb, hy⟩

/-- Cutting the string at a separator keeps what is found before it. -/
theorem strchr_append_cons (h : c ≠ o) : strchr c (x ++ o :: s) =
    ((strchr c x).map (· ++ o :: s)).or (strchr c s) := by
  induction x with
  | nil => exact strchr_cons_of_ne (Ne.symm h)
  | cons b x ih =>
    by_cases hb : b = c
    · subst hb
      simp
    · rw [List.cons_append, strchr_cons_of_ne hb, ih, strchr_cons_of_ne hb]

end strchr

/-! ## strstr -/

section strstr

variable {pat x y k s t : List α} {q o : α}

theorem strstr_self_append (h : pat ≠ []) : strstr pat (pat ++ s) = some (pat ++ s) := by
  cases pat with
  | nil => exact absurd rfl h
  | cons b pat => exact if_pos (List.prefix_append _ _)

theorem strstr_cons_of_not (b : α) (h : ¬ pat <+: b :: s) : strstr pat (b :: s) = strstr pat s :=
  if_neg h

/-- Text without the first character of the pattern is skipped. -/
theorem strstr_append_of_notMem (h : q ∉ x) :
    strstr (q :: pat) (x ++ s) = strstr (q :: pat) s := by
  induction x with
  | nil => rfl
  | cons b x ih =>
    rw [List.mem_cons, not_or] at h
    rw [List.cons_append, strstr_cons_of_not, ih h.2]
    intro hpre
    exact h.1 (List.cons_prefix_cons.mp hpre).1

theorem strstr_eq_none (h : q ∉ s) : strstr (q :: pat) s = none := by
  have hnil : strstr (q :: pat) (s ++ []) = strstr (q :: pat) [] := strstr_append_of_notMem h
  rwa [List.append_nil] at hnil

/-- A quoted text other than the one searched for is skipped. -/
theorem strstr_chain_skip {ys : List (List α)} {z : List α} (hk : q ∉ k) (hy : q ∉ y)
    (hne : k ≠ y) :
    strstr (quoted q k) (chain q (y :: ys) z) = strstr (quoted q k) (chain q ys z) := by
  obtain ⟨s, hs⟩ := exists_chain_eq q ys z
  rw [chain_cons, hs, quoted, strstr_cons_of_not, strstr_append_of_notMem hy]
  intro hpre
  exact hne (eq_of_quoted_start hk hy (List.cons_prefix_cons.mp hpre).2)

theorem strstr_chain_hit {ys : List (List α)} {z : List α} :
    strstr (quoted q k) (chain q (k :: ys) z) = some (chain q (k :: ys) z) := by
  obtain ⟨s, hs⟩ := exists_chain_eq q ys z
  have hsplit : chain q (k :: ys) z = quoted q k ++ s := by
    rw [chain_cons, hs, quoted, List.cons_append, List.append_assoc]
    rfl
  rw [hsplit]
  exact strstr_self_append (List.cons_ne_nil _ _)

/-- The first of the quoted texts that is the one searched for. -/
theorem strstr_chain {ys zs : List (List α)} {z : List α} (hk : q ∉ k)
    (hys : ∀ y ∈ ys, q ∉ y ∧ k ≠ y) :
    strstr (quoted q k) (chain q (ys ++ k :: zs) z) = some (chain q (k :: zs) z) := by
  induction ys with
  | nil => exact strstr_chain_hit
  | cons y ys ih =>
    obtain ⟨hy, hrest⟩ := List.forall_mem_cons.mp hys
    rw [List.cons_append, strstr_chain_skip hk hy.1 hy.2]
    exact ih hrest

theorem strstr_append_cons (hne : pat ≠ []) (ho : o ∉ pat) : strstr pat (x ++ o :: s) =
    ((strstr pat x).map (· ++ o :: s)).or (strstr pat s) := by
  induction x with
  | nil =>
    rw [List.nil_append, strstr_cons_of_not, strstr, if_neg hne]
    · rfl
    · cases pat with
      | nil => exact absurd rfl hne
      | cons a pat =>
        intro hpre
        exact ho ((List.cons_prefix_cons.mp hpre).1 ▸ List.mem_cons_self)
  | cons b x ih =>
    by_cases hb : pat <+: b :: x
    · have hlong : pat <+: b :: (x ++ o :: s) := hb.trans (List.prefix_append (b :: x) _)
      rw [List.cons_append, strstr, if_pos hlong, strstr, if_pos hb]
      rfl
    · have hlong : ¬ pat <+: b :: (x ++ o :: s) := fun h => hb (prefix_append_cons ho h)
      rw [List.cons_append, strstr_cons_of_not b hlong, ih, strstr_cons_of_not b hb]

theorem strrchr_of_notMem (h : o ∉ s) : strrchr o s = none := by
  induction s with
  | nil => rfl
  | cons b s ih =>
    rw [List.mem_cons, not_or] at h
    rw [strrchr, ih h.2, if_neg (Ne.symm h.1)]
    rfl

theorem strrchr_append_cons (h : o ∉ s) : strrchr o (x ++ o :: s) = some (o :: s) := by
  induction x with
  | nil =>
    rw [List.nil_append, strrchr, strrchr_of_notMem h, if_pos rfl]
    rfl
  | cons b x ih =>
    rw [List.cons_append, strrchr, ih]
    rfl

/-- The last occurrence splits the string. -/
theorem strrchr_split (h : o ∈ s) : ∃ x rest, s = x ++ o :: rest ∧ o ∉ rest := by
  induction s with
  | nil => cases h
  | cons b s ih =>
    by_cases hs : o ∈ s
    · obtain ⟨x, rest, rfl, hrest⟩ := ih hs
      exact ⟨b :: x, rest, rfl, hrest⟩
    · rcases List.mem_cons.mp h with rfl | h
      · exact ⟨[], s, rfl, hs⟩
      · exact absurd h hs

theorem strstr_eq_some (h : strstr pat s = some t) : t <:+ s ∧ pat <+: t := by
  induction s with
  | nil =>
    unfold strstr at h
    split_ifs at h with hpat
    cases h
    exact ⟨List.suffix_refl _, hpat ▸ List.nil_prefix⟩
  | cons b s ih =>
    unfold strstr at h
    split_ifs at h with hb
    · cases h
      exact ⟨List.suffix_refl _, hb⟩
    · exact ⟨(ih h).1.trans (List.suffix_cons b s), (ih h).2⟩

/-- A search that counts only when it ends before a separator looks at the part
before the separator alone. -/
theorem strstr_within (hne : pat ≠ []) (ho : o ∉ pat) :
    within (o :: s) (strstr pat (x ++ o :: s)) = (strstr pat x).map (· ++ o :: s) := by
  rw [strstr_append_cons hne ho]
  cases hx : strstr pat x with
  | some k =>
    have hk : k ≠ [] := by
      rintro rfl
      exact hne (List.prefix_nil.mp (strstr_eq_some hx).2)
    exact within_append hk
  | none =>
    exact within_of_suffix fun t ht => (strstr_eq_some ht).1.trans (List.suffix_cons o s)

theorem strchr_within {c : α} (hne : c ≠ o) :
    within (o :: s) (strchr c (x ++ o :: s)) = (strchr c x).map (· ++ o :: s) := by
  rw [strchr_append_cons hne]
  cases hx : strchr c x with
  | some k =>
    obtain ⟨y, rest, -, rfl, -⟩ := strchr_eq_some hx
    exact within_append (List.cons_ne_nil _ _)
  | none =>
    exact within_of_suffix fun t ht => (strchr_suffix ht).trans (List.suffix_cons o s)

end strstr

/-! ## blocks -/

section blocks

variable {o c : α} {x y s t : List α}

theorem blocksFrom_none_append (h : o ∉ x) :
    blocksFrom o c none (x ++ s) = blocksFrom o c none s := by
  induction x with
  | nil => rfl
  | cons b x ih =>
    rw [List.mem_cons, not_or] at h
    rw [List.cons_append, blocksFrom, if_neg (Ne.symm h.1), ih h.2]

theorem blocksFrom_some_append {part : List α} (h : c ∉ x) :
    blocksFrom o c (some part) (x ++ s) = blocksFrom o c (some (part ++ x)) s := by
  induction x generalizing part with
  | nil => rw [List.nil_append, List.append_nil]
  | cons b x ih =>
    rw [List.mem_cons, not_or] at h
    rw [List.cons_append, blocksFrom, if_neg (Ne.symm h.1), ih h.2, List.append_assoc]
    rfl

theorem blocks_of_notMem (h : o ∉ s) : blocks o c s = [] := by
  have hnil := blocksFrom_none_append (c := c) (s := []) h
  rwa [List.append_nil] at hnil

/-- The first part runs from the first `o` to the next `c`. -/
theorem blocks_cons (hx : o ∉ x) (hy : c ∉ y) :
    blocks o c (x ++ o :: (y ++ c :: s)) = (o :: y) :: blocks o c s := by
  rw [blocks, blocksFrom_none_append hx, blocksFrom, if_pos rfl, blocksFrom_some_append hy,
    blocksFrom, if_pos rfl]
  rfl

/-- Without a closing character no part ends. -/
theorem blocks_of_no_close (h : c ∉ s) : blocks o c s = [] := by
  have hfrom : ∀ part, blocksFrom o c part s = [] := by
    induction s with
    | nil => rintro (_ | part) <;> rfl
    | cons b s ih =>
      rw [List.mem_cons, not_or] at h
      rintro (_ | part)
      · rw [blocksFrom]
        split <;> exact ih h.2 _
      · rw [blocksFrom, if_neg (Ne.symm h.1)]
        exact ih h.2 _
  exact hfrom none

theorem blocks_skip (hx : o ∉ x) : blocks o c (x ++ s) = blocks o c s := blocksFrom_none_append hx

/-- After a `c` the parts of the rest follow. -/
theorem blocks_append (hne : c ≠ o) :
    blocks o c (s ++ c :: t) = blocks o c (s ++ [c]) ++ blocks o c t := by
  have hfrom : ∀ part, blocksFrom o c part (s ++ c :: t) =
      blocksFrom o c part (s ++ [c]) ++ blocksFrom o c none t := by
    induction s with
    | nil =>
      rintro (_ | part)
      · simp [blocksFrom, hne]
      · simp [blocksFrom]
    | cons b s ih =>
      rintro (_ | part)
      · simp only [List.cons_append, blocksFrom]
        split <;> exact ih _
      · simp only [List.cons_append, blocksFrom]
        split
        · rw [ih, List.cons_append]
        · exact ih _
  exact hfrom none

end blocks

/-! ## occurrences -/

section occurrences

variable {pat k x y s t : List α} {q o c : α}

theorem occurrences_le_append : occurrences pat t ≤ occurrences pat (s ++ t) := by
  induction s with
  | nil => exact Nat.le_refl _
  | cons b s ih => exact ih.trans (Nat.le_add_left _ _)

theorem occurrences_append_of_notMem (h : q ∉ x) :
    occurrences (q :: pat) (x ++ s) = occurrences (q :: pat) s := by
  induction x with
  | nil => rfl
  | cons b x ih =>
    rw [List.mem_cons, not_or] at h
    have hno : ¬ q :: pat <+: b :: (x ++ s) := fun hp => h.1 (List.cons_prefix_cons.mp hp).1
    rw [List.cons_append, occurrences, if_neg hno, ih h.2, Nat.zero_add]

theorem occurrences_quoted (hk : q ∉ k) (hy : q ∉ y) :
    occurrences (quoted q k) (q :: (y ++ q :: s)) =
      (if k = y then 1 else 0) + occurrences (quoted q k) (q :: s) := by
  rw [quoted, occurrences, occurrences_append_of_notMem hy]
  congr 1
  by_cases hky : k = y
  · subst hky
    have hp : q :: (k ++ [q]) <+: q :: (k ++ q :: s) := ⟨s, by simp⟩
    rw [if_pos hp, if_pos rfl]
  · rw [if_neg hky, if_neg]
    exact fun hp => hky (eq_of_quoted_start hk hy (List.cons_prefix_cons.mp hp).2)

theorem occurrences_chain {ys : List (List α)} {z : List α} (hk : q ∉ k) (hys : ∀ y ∈ ys, q ∉ y) :
    occurrences (quoted q k) (chain q ys z) = ys.count k + occurrences (quoted q k) (q :: z) := by
  induction ys with
  | nil => exact (Nat.zero_add _).symm
  | cons y ys ih =>
    obtain ⟨hy, hrest⟩ := List.forall_mem_cons.mp hys
    obtain ⟨s, hs⟩ := exists_chain_eq q ys z
    rw [chain_cons, hs, occurrences_quoted hk hy, ← hs, ih hrest]
    by_cases hky : k = y
    · rw [if_pos hky, hky, List.count_cons_self, ← Nat.add_assoc, Nat.add_comm 1]
    · rw [if_neg hky, List.count_cons_of_ne (Ne.symm hky), Nat.zero_add]

/-- A part in which the pattern is found accounts for one occurrence. -/
theorem succ_occurrences_le {found : List α} (hne : pat ≠ []) (h : strstr pat x = some found) :
    occurrences pat t + 1 ≤ occurrences pat (x ++ t) := by
  induction x with
  | nil => simp [strstr, hne] at h
  | cons b x ih =>
    rw [List.cons_append, occurrences]
    by_cases hb : pat <+: b :: x
    · have hlong : pat <+: b :: (x ++ t) := hb.trans (List.prefix_append (b :: x) t)
      rw [if_pos hlong, Nat.add_comm]
      exact Nat.add_le_add_left occurrences_le_append 1
    · rw [strstr_cons_of_not b hb] at h
      exact (ih h).trans (Nat.le_add_left _ _)

/-- At most as many parts hold the pattern as there are occurrences of it. -/
theorem blocks_filter_length_le (hne : pat ≠ []) :
    ((blocks o c s).filter fun part => (strstr pat part).isSome).length ≤ occurrences pat s := by
  have hfrom : ∀ (part : Option (List α)) (s : List α),
      ((blocksFrom o c part s).filter fun part => (strstr pat part).isSome).length ≤
        occurrences pat (part.getD [] ++ s) := by
    intro part s
    induction s generalizing part with
    | nil => cases part <;> exact Nat.zero_le _
    | cons b s ih =>
      cases part with
      | none =>
        rw [blocksFrom]
        split
        · exact ih (some [b])
        · exact (ih none).trans (Nat.le_add_left _ _)
      | some part =>
        rw [blocksFrom, Option.getD_some]
        split
        · have hrest := (ih none).trans (occurrences_le_append (s := [b]))
          rw [List.filter_cons]
          split
          · next hfound =>
            obtain ⟨found, hfound⟩ := Option.isSome_iff_exists.mp hfound
            exact (Nat.succ_le_succ hrest).trans (succ_occurrences_le hne hfound)
          · exact hrest.trans occurrences_le_append
        · have hnext := ih (some (part ++ [b]))
          rwa [Option.getD_some, List.append_assoc] at hnext
  exact hfrom none s

end occurrences

/-! ## Escaped text -/

/-- A quoted escaped text holds a quoted `k` at most once, and then only if it
is long enough. -/
theorem Escaped.occurrences_le {q esc : α} {e k s : List α} (h : Escaped q esc e) (hk : q ∉ k)
    (hesc : esc ∉ k) (hne : esc ≠ q) : ∃ n, n ≤ 1 ∧ n * k.length ≤ e.length ∧
      occurrences (quoted q k) (q :: (e ++ q :: s)) =
        n + occurrences (quoted q k) (q :: s) := by
  have hpre : ∀ y, q ∉ y → ∃ n, n ≤ 1 ∧ n * k.length ≤ y.length + e.length ∧
      occurrences (quoted q k) (q :: (y ++ e ++ q :: s)) =
        n + occurrences (quoted q k) (q :: s) := by
    induction h with
    | nil =>
      intro y hy
      rw [List.append_nil, occurrences_quoted hk hy]
      split_ifs with hky
      · exact ⟨1, le_refl 1, by simp [hky], rfl⟩
      · exact ⟨0, Nat.zero_le 1, by simp, rfl⟩
    | @plain b e hb _ ih =>
      intro y hy
      have hyb : q ∉ y ++ [b] := by simp [hy, Ne.symm hb]
      obtain ⟨n, hn, hlen, hocc⟩ := ih (y ++ [b]) hyb
      refine ⟨n, hn, ?_, ?_⟩
      · rw [List.length_append, List.length_singleton] at hlen
        rw [List.length_cons]
        omega
      · rwa [List.append_assoc y, List.singleton_append] at hocc
    | @quote e _ ih =>
      intro y hy
      have hyb : q ∉ y ++ [esc] := by simp [hy, Ne.symm hne]
      have hky : k ≠ y ++ [esc] := by
        rintro rfl
        exact hesc (by simp)
      obtain ⟨n, hn, hlen, hocc⟩ := ih [] List.not_mem_nil
      refine ⟨n, hn, ?_, ?_⟩
      · simp only [List.length_nil, List.length_cons] at hlen ⊢
        omega
      · have hcut : q :: (y ++ esc :: q :: e ++ q :: s) =
            q :: (y ++ [esc] ++ q :: (e ++ q :: s)) := by simp
        rw [hcut, occurrences_quoted hk hyb, if_neg hky, Nat.zero_add]
        exact hocc
  obtain ⟨n, hn, hlen, hocc⟩ := hpre [] List.not_mem_nil
  refine ⟨n, hn, ?_, hocc⟩
  rwa [List.length_nil, Nat.zero_add] at hlen

/-- The same between quoted texts. -/
theorem Escaped.occurrences_chain {q esc : α} {e k : List α} (h : Escaped q esc e) (hk : q ∉ k)
    (hesc : esc ∉ k) (hne : esc ≠ q) {ys : List (List α)} (hys : ∀ y ∈ ys, q ∉ y)
    (ys' : List (List α)) (z : List α) : ∃ n, n ≤ 1 ∧ n * k.length ≤ e.length ∧
      occurrences (quoted q k) (chain q ys (e ++ chain q ys' z)) =
        ys.count k + (n + occurrences (quoted q k) (chain q ys' z)) := by
  obtain ⟨s, hs⟩ := exists_chain_eq q ys' z
  obtain ⟨n, hn, hlen, hocc⟩ := h.occurrences_le (s := s) hk hesc hne
  refine ⟨n, hn, hlen, ?_⟩
  rw [CText.occurrences_chain hk hys, hs, hocc]

/-! ## Messages in a stream -/

section Stream

variable {β γ : Type} {v x y : List γ}

/-- What does not hold the end of `x` does not reach over it. -/
theorem infix_append_of_end (hend : ∀ a ∈ x.getLast?, a ∉ v) (h : v <:+: x ++ y) :
    v <:+: x ∨ v <:+: y := by
  obtain ⟨a, b, heq⟩ := h
  rcases List.append_eq_append_iff.mp heq with ⟨c, rfl, -⟩ | ⟨c, hx, rfl⟩
  · exact .inl ⟨a, c, rfl⟩
  rcases List.append_eq_append_iff.mp hx with ⟨d, rfl, rfl⟩ | ⟨d, rfl, rfl⟩
  · cases d with
    | nil => exact .inr ⟨[], b, rfl⟩
    | cons e d =>
      have hlast : (e :: d).getLast (List.cons_ne_nil e d) ∈ (a ++ e :: d).getLast? := by
        rw [List.getLast?_append, List.getLast?_eq_some_getLast (List.cons_ne_nil e d)]
        rfl
      exact absurd (List.mem_append_left c (List.getLast_mem _)) (hend _ hlast)
  · exact .inr ⟨d, b, rfl⟩

/-- In a stream of messages it lies in one of them. -/
theorem infix_flatMap_of_end {f : β → List γ} {ms : List β} (hv : v ≠ [])
    (hend : ∀ m ∈ ms, ∀ a ∈ (f m).getLast?, a ∉ v) (h : v <:+: ms.flatMap f) :
    ∃ m ∈ ms, v <:+: f m := by
  induction ms with
  | nil => exact absurd (List.eq_nil_of_infix_nil h) hv
  | cons m ms ih =>
    rw [List.flatMap_cons] at h
    rcases infix_append_of_end (hend m List.mem_cons_self) h with h | h
    · exact ⟨m, List.mem_cons_self, h⟩
    · obtain ⟨m', hm', h'⟩ := ih (fun m' hm' => hend m' (List.mem_cons_of_mem m hm')) h
      exact ⟨m', List.mem_cons_of_mem m hm', h'⟩

end Stream

end CText
