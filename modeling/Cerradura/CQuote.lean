import Cerradura.CText

/-!
# Searching escaped text

Text in which each quotation mark comes after an escape character can still end
in the name of a key: the quotation mark that closes it then also closes the
key, and the search takes the end of the text for the key.

* `Escaped.strstr_append`: where a search through an escaped text finds a key.
* `upTo`, `past`, `opened`: what a closing character leaves on either side of
  it, and the part that is still open at the end.
* `blocks_append_opened`: the parts of a text that goes on.
-/

namespace CText

variable {α : Type} {q esc b : α} {e x y k s : List α}

/-! ## Escaped text -/

/-- An escaped text can be cut at an ordinary character. -/
theorem Escaped.split (h : Escaped q esc (x ++ b :: y)) (hq : b ≠ q) (hesc : b ≠ esc) :
    Escaped q esc x ∧ Escaped q esc y := by
  generalize hs : x ++ b :: y = s at h
  induction h generalizing x with
  | nil => cases x <;> cases hs
  | plain ha hrest ih =>
    cases x with
    | nil =>
      cases hs
      exact ⟨.nil, hrest⟩
    | cons a x =>
      cases hs
      obtain ⟨hx, hy⟩ := ih rfl
      exact ⟨.plain ha hx, hy⟩
  | quote hrest ih =>
    cases x with
    | nil =>
      cases hs
      exact absurd rfl hesc
    | cons a x =>
      cases x with
      | nil =>
        cases hs
        exact absurd rfl hq
      | cons a' x =>
        cases hs
        obtain ⟨hx, hy⟩ := ih rfl
        exact ⟨.quote hx, hy⟩

/-- A quoted key is a whole escaped text or no part of its beginning. -/
theorem Escaped.eq_of_start (h : Escaped q esc e) (hk : q ∉ k) (hesc : esc ∉ k) (hne : esc ≠ q)
    (hpre : k ++ [q] <+: e ++ q :: s) : k = e := by
  induction h generalizing k with
  | nil =>
    cases k with
    | nil => rfl
    | cons a k =>
      have ha := (List.cons_prefix_cons.mp hpre).1
      exact absurd (ha ▸ List.mem_cons_self) hk
  | plain hb _ ih =>
    cases k with
    | nil => exact absurd (List.cons_prefix_cons.mp hpre).1.symm hb
    | cons a k =>
      rw [List.mem_cons, not_or] at hk hesc
      obtain ⟨rfl, hrest⟩ := List.cons_prefix_cons.mp hpre
      rw [ih hk.2 hesc.2 hrest]
  | quote _ _ =>
    cases k with
    | nil => exact absurd (List.cons_prefix_cons.mp hpre).1.symm hne
    | cons a k =>
      have ha := (List.cons_prefix_cons.mp hpre).1
      exact absurd (ha ▸ List.mem_cons_self) hesc

theorem Escaped.not_start (h : Escaped q esc e) (hk : q ∉ k) (hesc : esc ∉ k) (hne : esc ≠ q) :
    ¬ k ++ [q] <+: e := by
  intro hpre
  have heq := h.eq_of_start hk hesc hne (hpre.trans (List.prefix_append e [q]))
  have hlen := hpre.length_le
  rw [heq, List.length_append] at hlen
  exact absurd hlen (Nat.not_succ_le_self _)

variable [DecidableEq α]

/-- Cut at its first quotation mark, such a text ends in an escape character that
stands alone. -/
theorem Paired.takeWhile (h : Paired q esc e) (hne : esc ≠ q) (hq : q ∈ e) :
    ∃ x, Paired q esc x ∧ e.takeWhile (· ≠ q) = x ++ [esc] := by
  induction h with
  | nil => cases hq
  | @plain b e hb hesc _ ih =>
    obtain ⟨x, hx, htake⟩ := ih ((List.mem_cons.mp hq).resolve_left (Ne.symm hb))
    refine ⟨b :: x, .plain hb hesc hx, ?_⟩
    rw [List.takeWhile_cons_of_pos (by simp [hb]), htake, List.cons_append]
  | @pair b e _ ih =>
    rw [List.takeWhile_cons_of_pos (by simp [hne])]
    by_cases hb : b = q
    · refine ⟨[], .nil, ?_⟩
      rw [List.takeWhile_cons_of_neg (by simp [hb]), List.nil_append]
    · have hrest := (List.mem_cons.mp hq).resolve_left (Ne.symm hne)
      obtain ⟨x, hx, htake⟩ := ih ((List.mem_cons.mp hrest).resolve_left (Ne.symm hb))
      refine ⟨esc :: b :: x, .pair hx, ?_⟩
      rw [List.takeWhile_cons_of_pos (by simp [hb]), htake]
      rfl

/-! ## Searching for a quoted key -/

/-- At an opening quotation mark the key is the whole text, or is searched for in it. -/
theorem Escaped.strstr_cons_of (h : Escaped q esc x) (hk : q ∉ k) (hesc : esc ∉ k)
    (hne : esc ≠ q) (hx : strstr (quoted q k) (x ++ q :: s) =
      if q :: k <:+ x then some (quoted q k ++ s) else strstr (quoted q k) (q :: s)) :
    strstr (quoted q k) (q :: (x ++ q :: s)) =
      if q :: k <:+ q :: x then some (quoted q k ++ s) else strstr (quoted q k) (q :: s) := by
  by_cases hkx : k = x
  · subst hkx
    have hsplit : q :: (k ++ q :: s) = quoted q k ++ s := by simp [quoted]
    rw [if_pos (List.suffix_refl _), hsplit]
    exact strstr_self_append (List.cons_ne_nil _ _)
  · have hstart : ¬ quoted q k <+: q :: (x ++ q :: s) := by
      intro hpre
      exact hkx (h.eq_of_start hk hesc hne (List.cons_prefix_cons.mp hpre).2)
    have hsuffix : q :: k <:+ q :: x ↔ q :: k <:+ x := by
      rw [List.suffix_cons_iff]
      exact or_iff_right fun heq => hkx (List.cons.inj heq).2
    rw [strstr_cons_of_not q hstart, hx]
    exact if_congr hsuffix.symm rfl rfl

/-- The quotation mark that closes a text can close the key. -/
theorem Escaped.strstr_append (h : Escaped q esc x) (hk : q ∉ k) (hesc : esc ∉ k) (hne : esc ≠ q)
    (s : List α) : strstr (quoted q k) (x ++ q :: s) =
      if q :: k <:+ x then some (quoted q k ++ s) else strstr (quoted q k) (q :: s) := by
  have hskip : ∀ {b : α} {t : List α}, b ≠ q → ¬ quoted q k <+: b :: t := by
    intro b t hb hpre
    exact hb (List.cons_prefix_cons.mp hpre).1.symm
  have hsuffix : ∀ {b : α} {t : List α}, b ≠ q → (q :: k <:+ b :: t ↔ q :: k <:+ t) := by
    intro b t hb
    rw [List.suffix_cons_iff]
    exact or_iff_right fun heq => hb (List.cons.inj heq).1.symm
  induction h with
  | nil => rw [if_neg (by simp), List.nil_append]
  | plain hb _ ih =>
    rw [List.cons_append, strstr_cons_of_not _ (hskip hb), ih]
    exact if_congr (hsuffix hb).symm rfl rfl
  | quote he ih =>
    rw [List.cons_append, List.cons_append, strstr_cons_of_not _ (hskip hne),
      he.strstr_cons_of hk hesc hne ih]
    exact if_congr (hsuffix hne).symm rfl rfl

theorem Escaped.strstr_cons (h : Escaped q esc x) (hk : q ∉ k) (hesc : esc ∉ k) (hne : esc ≠ q)
    (s : List α) : strstr (quoted q k) (q :: (x ++ q :: s)) =
      if q :: k <:+ q :: x then some (quoted q k ++ s) else strstr (quoted q k) (q :: s) :=
  h.strstr_cons_of hk hesc hne (h.strstr_append hk hesc hne s)

/-- A text that nothing closes holds no key. -/
theorem Escaped.strstr_eq_none (h : Escaped q esc x) (hk : q ∉ k) (hesc : esc ∉ k)
    (hne : esc ≠ q) : strstr (quoted q k) x = none := by
  induction h with
  | nil => exact if_neg (List.cons_ne_nil _ _)
  | plain hb _ ih =>
    rw [strstr_cons_of_not, ih]
    exact fun hpre => hb (List.cons_prefix_cons.mp hpre).1.symm
  | quote he ih =>
    rw [strstr_cons_of_not, strstr_cons_of_not, ih]
    · exact fun hpre => he.not_start hk hesc hne (List.cons_prefix_cons.mp hpre).2
    · exact fun hpre => hne (List.cons_prefix_cons.mp hpre).1.symm

theorem Escaped.strstr_cons_eq_none (h : Escaped q esc x) (hk : q ∉ k) (hesc : esc ∉ k)
    (hne : esc ≠ q) : strstr (quoted q k) (q :: x) = none := by
  rw [strstr_cons_of_not, h.strstr_eq_none hk hesc hne]
  exact fun hpre => h.not_start hk hesc hne (List.cons_prefix_cons.mp hpre).2

/-- What occurs without a quotation mark occurs on one side of it. -/
theorem strstr_isSome_append {pat : List α} (hne : pat ≠ []) (hq : q ∉ pat) :
    (strstr pat (x ++ q :: s)).isSome ↔ (strstr pat x).isSome ∨ (strstr pat s).isSome := by
  rw [strstr_append_cons hne hq, Option.isSome_or, Option.isSome_map, Bool.or_eq_true]

/-! ## Cutting at a closing character -/

section Cut

variable {o c : α} {z : List α}

/-- Up to the first `c`, and what comes after it. -/
def upTo (c : α) (s : List α) : List α := s.takeWhile (· ≠ c)

def past (c : α) (s : List α) : List α := (s.dropWhile (· ≠ c)).tail

theorem ne_of_notMem (h : c ∉ x) : ∀ b ∈ x, decide (b ≠ c) = true := by
  intro b hb
  exact decide_eq_true fun hbc => h (hbc ▸ hb)

theorem upTo_append_of_notMem (h : c ∉ x) (s : List α) : upTo c (x ++ s) = x ++ upTo c s :=
  List.takeWhile_append_of_pos (ne_of_notMem h)

theorem past_append_of_notMem (h : c ∉ x) (s : List α) : past c (x ++ s) = past c s := by
  rw [past, List.dropWhile_append_of_pos (ne_of_notMem h)]
  rfl

theorem upTo_of_notMem (h : c ∉ x) : upTo c x = x := by
  have hnil := upTo_append_of_notMem h []
  rwa [List.append_nil, upTo, upTo, List.takeWhile_nil, List.append_nil] at hnil

theorem past_of_notMem (h : c ∉ x) : past c x = [] := by
  have hnil := past_append_of_notMem h []
  rwa [List.append_nil] at hnil

theorem upTo_append_cons (h : c ∉ x) (s : List α) : upTo c (x ++ c :: s) = x := by
  rw [upTo_append_of_notMem h, upTo, List.takeWhile_cons_of_neg (by simp), List.append_nil]

theorem past_append_cons (h : c ∉ x) (s : List α) : past c (x ++ c :: s) = s := by
  rw [past_append_of_notMem h, past, List.dropWhile_cons_of_neg (by simp), List.tail_cons]

/-- The first `c` lies within the first `n` characters, or those come before it. -/
theorem length_upTo_lt {n : ℕ} (h : c ∈ x.take n) : (upTo c x).length < n := by
  obtain ⟨y, rest, rfl, hy⟩ := strchr_split (List.mem_of_mem_take h)
  rw [upTo_append_cons hy]
  by_contra hlong
  rw [List.take_append_of_le_length (not_lt.mp hlong)] at h
  exact hy (List.mem_of_mem_take h)

theorem take_upTo {n : ℕ} (h : c ∉ x.take n) : (upTo c x).take n = x.take n := by
  by_cases hc : c ∈ x
  · obtain ⟨y, rest, rfl, hy⟩ := strchr_split hc
    rw [upTo_append_cons hy]
    by_cases hlong : n ≤ y.length
    · rw [List.take_append_of_le_length hlong]
    · refine absurd ?_ h
      rw [List.take_append, List.mem_append]
      obtain ⟨k, hk⟩ := Nat.exists_eq_add_of_lt (not_le.mp hlong)
      right
      rw [hk, Nat.add_assoc, Nat.add_sub_cancel_left, List.take_succ_cons]
      exact List.mem_cons_self
  · rw [upTo_of_notMem hc]

theorem upTo_append_of_mem (h : c ∈ x) (s : List α) : upTo c (x ++ s) = upTo c x := by
  obtain ⟨y, rest, rfl, hy⟩ := strchr_split h
  rw [List.append_assoc, List.cons_append, upTo_append_cons hy, upTo_append_cons hy]

theorem past_append_of_mem (h : c ∈ x) (s : List α) : past c (x ++ s) = past c x ++ s := by
  obtain ⟨y, rest, rfl, hy⟩ := strchr_split h
  rw [List.append_assoc, List.cons_append, past_append_cons hy, past_append_cons hy]

theorem Escaped.upTo (h : Escaped q esc x) (hq : c ≠ q) (hesc : c ≠ esc) :
    Escaped q esc (upTo c x) := by
  by_cases hc : c ∈ x
  · obtain ⟨y, rest, rfl, hy⟩ := strchr_split hc
    rw [upTo_append_cons hy]
    exact (h.split hq hesc).1
  · rwa [upTo_of_notMem hc]

theorem Escaped.past (h : Escaped q esc x) (hq : c ≠ q) (hesc : c ≠ esc) :
    Escaped q esc (past c x) := by
  by_cases hc : c ∈ x
  · obtain ⟨y, rest, rfl, hy⟩ := strchr_split hc
    rw [past_append_cons hy]
    exact (h.split hq hesc).2
  · rw [past_of_notMem hc]
    exact .nil

theorem upTo_chain {ys : List (List α)} (hq : c ≠ q) (hys : ∀ y ∈ ys, c ∉ y) (z : List α) :
    upTo c (chain q ys z) = chain q ys (upTo c z) := by
  rw [chain_eq_append, upTo_append_of_notMem (notMem_chain hq hys List.not_mem_nil),
    ← chain_eq_append]

theorem past_chain {ys : List (List α)} (hq : c ≠ q) (hys : ∀ y ∈ ys, c ∉ y) (z : List α) :
    past c (chain q ys z) = past c z := by
  rw [chain_eq_append, past_append_of_notMem (notMem_chain hq hys List.not_mem_nil)]

end Cut

/-! ## The part left open -/

section opened

variable {o c : α} {p part z : List α}

/-- The part that no closing character ends: from the first `o` after the last `c`. -/
def opened (o c : α) (s : List α) : Option (List α) :=
  strchr o (((strrchr c s).map List.tail).getD s)

theorem opened_of_notMem (h : c ∉ s) : opened o c s = strchr o s := by
  rw [opened, strrchr_of_notMem h]
  rfl

theorem opened_append_cons (h : c ∉ y) : opened o c (x ++ c :: y) = strchr o y := by
  rw [opened, strrchr_append_cons h]
  rfl

theorem opened_eq_some (h : opened o c s = some p) : ∃ x y, s = x ++ o :: y ∧ p = o :: y := by
  by_cases hc : c ∈ s
  · obtain ⟨x, rest, rfl, hrest⟩ := strrchr_split hc
    rw [opened_append_cons hrest] at h
    obtain ⟨x', y, rfl, rfl, -⟩ := strchr_eq_some h
    exact ⟨x ++ c :: x', y, by simp, rfl⟩
  · rw [opened_of_notMem hc] at h
    obtain ⟨x, y, rfl, rfl, -⟩ := strchr_eq_some h
    exact ⟨x, y, rfl, rfl⟩

theorem blocksFrom_some_eq (h : c ∈ z) :
    blocksFrom o c (some part) z = (part ++ upTo c z) :: blocks o c (past c z) := by
  obtain ⟨y, rest, rfl, hy⟩ := strchr_split h
  rw [blocksFrom_some_append hy, blocksFrom, if_pos rfl, upTo_append_cons hy, past_append_cons hy]
  rfl

theorem blocks_append_of_notMem (hc : c ∉ x) (hz : c ∈ z) : blocks o c (x ++ z) =
    match strchr o x with
    | none => blocks o c z
    | some p => (p ++ upTo c z) :: blocks o c (past c z) := by
  by_cases ho : o ∈ x
  · obtain ⟨u, v, rfl, hu⟩ := strchr_split ho
    rw [List.mem_append, List.mem_cons, not_or, not_or] at hc
    rw [strchr_append_of_notMem hu, strchr_cons_self, List.append_assoc, List.cons_append,
      blocks, blocksFrom_none_append hu, blocksFrom, if_pos rfl, blocksFrom_some_append hc.2.2,
      blocksFrom_some_eq hz]
    rfl
  · rw [strchr_eq_none ho, blocks_skip ho]

/-- The parts of a text that goes on: those that are complete, the one left open
and those after it. -/
theorem blocks_append_opened (hne : c ≠ o) (hz : c ∈ z) : blocks o c (x ++ z) = blocks o c x ++
    match opened o c x with
    | none => blocks o c z
    | some p => (p ++ upTo c z) :: blocks o c (past c z) := by
  by_cases hc : c ∈ x
  · obtain ⟨u, v, rfl, hv⟩ := strrchr_split hc
    have hclosed : blocks o c (u ++ c :: v) = blocks o c (u ++ [c]) := by
      rw [blocks_append hne, blocks_of_no_close hv, List.append_nil]
    rw [hclosed, opened_append_cons hv, List.append_assoc, List.cons_append, blocks_append hne,
      blocks_append_of_notMem hv hz]
  · rw [opened_of_notMem hc, blocks_of_no_close hc, blocks_append_of_notMem hc hz, List.nil_append]

/-- A part is a piece of the text. -/
theorem exists_of_mem_blocks (h : part ∈ blocks o c s) :
    ∃ x y z, s = x ++ o :: (y ++ c :: z) ∧ part = o :: y := by
  have hfrom : ∀ (open? : Option (List α)) (s : List α), part ∈ blocksFrom o c open? s →
      (∃ p y z, open? = some p ∧ s = y ++ c :: z ∧ part = p ++ y) ∨
      ∃ x y z, s = x ++ o :: (y ++ c :: z) ∧ part = o :: y := by
    intro open? s
    induction s generalizing open? with
    | nil => intro hmem; cases open? <;> cases hmem
    | cons b s ih =>
      intro hmem
      cases open? with
      | none =>
        rw [blocksFrom] at hmem
        split_ifs at hmem with hb
        · rcases ih _ hmem with ⟨p, y, z, hp, rfl, rfl⟩ | ⟨x, y, z, rfl, rfl⟩
          · cases hp
            exact .inr ⟨[], y, z, by rw [hb, List.nil_append], by rw [hb]; rfl⟩
          · exact .inr ⟨b :: x, y, z, rfl, rfl⟩
        · rcases ih _ hmem with ⟨p, y, z, hp, -, -⟩ | ⟨x, y, z, rfl, rfl⟩
          · cases hp
          · exact .inr ⟨b :: x, y, z, rfl, rfl⟩
      | some p =>
        rw [blocksFrom] at hmem
        split_ifs at hmem with hb
        · rcases List.mem_cons.mp hmem with rfl | hmem
          · exact .inl ⟨part, [], s, rfl, by rw [hb, List.nil_append], by rw [List.append_nil]⟩
          · rcases ih _ hmem with ⟨p, y, z, hp, -, -⟩ | ⟨x, y, z, rfl, rfl⟩
            · cases hp
            · exact .inr ⟨b :: x, y, z, rfl, rfl⟩
        · rcases ih _ hmem with ⟨p', y, z, hp, rfl, rfl⟩ | ⟨x, y, z, rfl, rfl⟩
          · cases hp
            exact .inl ⟨p, b :: y, z, rfl, rfl, by rw [List.append_assoc]; rfl⟩
          · exact .inr ⟨b :: x, y, z, rfl, rfl⟩
  rcases hfrom none s h with ⟨p, y, z, hp, -, -⟩ | hpart
  · cases hp
  · exact hpart

theorem Escaped.opened (h : Escaped q esc s) (hoq : o ≠ q) (hoe : o ≠ esc)
    (hp : opened o c s = some p) : Escaped q esc p := by
  obtain ⟨x, y, rfl, rfl⟩ := opened_eq_some hp
  exact .plain hoq (h.split hoq hoe).2

theorem Escaped.blocks (h : Escaped q esc s) (hoq : o ≠ q) (hoe : o ≠ esc) (hcq : c ≠ q)
    (hce : c ≠ esc) (hpart : part ∈ blocks o c s) : Escaped q esc part := by
  obtain ⟨x, y, z, rfl, rfl⟩ := exists_of_mem_blocks hpart
  exact .plain hoq ((h.split hoq hoe).2.split hcq hce).1

end opened

end CText
