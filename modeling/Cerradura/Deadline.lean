import Cerradura.Reactive
import Mathlib.Data.List.Basic
import Mathlib.Order.Nat

/-!
# Reactive programs on a running clock

Each input of a program may carry the reading of a clock. A loop that gives up
after a time reads the clock again and again; if the clock runs, the loop ends,
and the number of inputs that it takes is bounded by the time.

* `Timing.Runs`: a clock that never goes back and moves on every so many inputs.
* `Prog.Takes`: a program that returns, with bounds on the inputs that it reads.
* `Prog.Takes.after`: one that comes after a part which waits for something else.
* `Prog.Takes.iter_until`, `iter_until_of`: the rules for a loop with a deadline.
* `Prog.Takes.iter_count`, `iter_count_of`: the rules for a loop that counts its
  rounds.
-/

namespace Reactive

variable {σ τ ι ε δ α β γ : Type}

/-- How a clock is read: from each input, with less than `pace` inputs between
one value and the next, and below `limit`. -/
structure Timing (ι : Type) where
  tick : ι → ℕ
  pace : ℕ
  limit : ℕ

variable {k : Timing ι}

/-- From `start` on the clock runs along the inputs. -/
structure Timing.Runs (k : Timing ι) (start : ℕ) (inputs : List ι) : Prop where
  sorted : inputs.Pairwise fun a b => k.tick a ≤ k.tick b
  advances : ∀ n a b, inputs[n]? = some a → inputs[n + k.pace]? = some b → k.tick a < k.tick b
  range : ∀ a ∈ inputs, start ≤ k.tick a ∧ k.tick a < k.limit

namespace Timing.Runs

variable {start : ℕ} {inputs : List ι}

theorem drop (h : k.Runs start inputs) (p : ℕ) : k.Runs start (inputs.drop p) := by
  refine ⟨h.sorted.sublist (List.drop_sublist p inputs), fun n a b ha hb => ?_,
    fun a ha => h.range a (List.mem_of_mem_drop ha)⟩
  rw [List.getElem?_drop] at ha hb
  exact h.advances (p + n) a b ha (Nat.add_assoc p n k.pace ▸ hb)

theorem mono {start' : ℕ} (h : k.Runs start inputs) (hle : start' ≤ start) :
    k.Runs start' inputs :=
  ⟨h.sorted, h.advances, fun a ha => ⟨hle.trans (h.range a ha).1, (h.range a ha).2⟩⟩

/-- The clock runs from its first reading on. -/
theorem head {i : ι} {rest : List ι} (h : k.Runs start (i :: rest)) :
    k.Runs (k.tick i) (i :: rest) := by
  refine ⟨h.sorted, h.advances, fun a ha => ⟨?_, (h.range a ha).2⟩⟩
  rcases List.mem_cons.mp ha with rfl | ha
  · exact Nat.le_refl _
  · exact (List.pairwise_cons.mp h.sorted).1 a ha

theorem tail {i : ι} {rest : List ι} (h : k.Runs start (i :: rest)) : k.Runs (k.tick i) rest :=
  h.head.drop 1

/-- After `pace` inputs for each unit of time the time is over. -/
theorem reached (h : k.Runs start inputs) {time n : ℕ} (hn : k.pace * time ≤ n) {a : ι}
    (ha : inputs[n]? = some a) : start + time ≤ k.tick a := by
  induction time generalizing n a with
  | zero => exact (h.range a (List.mem_of_getElem? ha)).1
  | succ time ih =>
    rw [Nat.mul_succ] at hn
    obtain ⟨m, rfl⟩ := Nat.exists_eq_add_of_le' (Nat.le_of_add_left_le hn)
    have hm : k.pace * time ≤ m := Nat.le_of_add_le_add_right hn
    obtain ⟨hlt, -⟩ := List.getElem?_eq_some_iff.mp ha
    have hlt' : m < inputs.length := Nat.lt_of_le_of_lt (Nat.le_add_right m k.pace) hlt
    have hget : inputs[m]? = some inputs[m] := List.getElem?_eq_getElem hlt'
    exact Nat.lt_of_le_of_lt (ih hm hget) (h.advances m _ a hget ha)

theorem reached_of_mem_drop (h : k.Runs start inputs) {time n : ℕ} (hn : k.pace * time ≤ n)
    {a : ι} (ha : a ∈ inputs.drop n) : start + time ≤ k.tick a := by
  obtain ⟨i, hi⟩ := List.mem_iff_getElem?.mp ha
  rw [List.getElem?_drop] at hi
  exact h.reached (Nat.le_add_right_of_le hn) hi

end Timing.Runs

namespace Prog

/-- Where the clock runs from `start` on, the program returns if it finds `most`
inputs, and has read at least `least` and at most `most`. -/
def Takes (k : Timing ι) (start least most : ℕ) (m : Prog σ ι ε α) : Prop :=
  ∀ c, k.Runs start c.inputs → most ≤ c.inputs.length →
    m.wp (fun _ => False) (fun _ c' => ∃ p, least ≤ p ∧ p ≤ most ∧ c'.inputs = c.inputs.drop p) c

/-- At most `most` inputs have been read. -/
def Reads (most : ℕ) (c c' : Config σ ι ε) : Prop := ∃ p, p ≤ most ∧ c'.inputs = c.inputs.drop p

namespace Reads

variable {most most' : ℕ} {c c' c'' : Config σ ι ε}

theorem mono (h : Reads most c c') (hle : most ≤ most') : Reads most' c c' :=
  h.imp fun _ hp => ⟨hp.1.trans hle, hp.2⟩

theorem trans (h : Reads most c c') (h' : Reads most' c' c'') : Reads (most + most') c c'' := by
  obtain ⟨p, hp, hdrop⟩ := h
  obtain ⟨q, hq, hdrop'⟩ := h'
  exact ⟨p + q, Nat.add_le_add hp hq, by rw [hdrop', hdrop, List.drop_drop]⟩

/-- What is left. -/
theorem length_le (h : Reads most c c') {n : ℕ} (hlen : most + n ≤ c.inputs.length) :
    n ≤ c'.inputs.length := by
  obtain ⟨p, hp, hdrop⟩ := h
  rw [hdrop, List.length_drop]
  omega

theorem runs (h : Reads most c c') {start : ℕ} (hc : k.Runs start c.inputs) :
    k.Runs start c'.inputs := by
  obtain ⟨p, -, hdrop⟩ := h
  exact hdrop ▸ hc.drop p

theorem mem (h : Reads most c c') {i : ι} (hi : i ∈ c'.inputs) : i ∈ c.inputs := by
  obtain ⟨p, -, hdrop⟩ := h
  exact List.mem_of_mem_drop (hdrop ▸ hi)

end Reads

namespace Takes

variable {start least most least' most' : ℕ}

theorem reads {m : Prog σ ι ε α} (h : Takes k start least most m) {c : Config σ ι ε}
    (hc : k.Runs start c.inputs) (hlen : most ≤ c.inputs.length) :
    m.wp (fun _ => False) (fun _ => Reads most c) c :=
  wp_mono (h c hc hlen) (fun _ h => h) fun _ _ h => h.imp fun _ hp => hp.2

theorem mono {m : Prog σ ι ε α} (h : Takes k start least most m) (hleast : least' ≤ least)
    (hmost : most ≤ most') : Takes k start least' most' m := by
  intro c hc hlen
  refine wp_mono (h c hc (hmost.trans hlen)) (fun _ h => h) fun _ c' hp => ?_
  obtain ⟨p, hleast', hmost', heq⟩ := hp
  exact ⟨p, hleast.trans hleast', hmost'.trans hmost, heq⟩

/-- Without the lower bound. -/
theorem upTo {m : Prog σ ι ε α} (h : Takes k start least most m) (hmost : most ≤ most') :
    Takes k start 0 most' m := h.mono (Nat.zero_le least) hmost

theorem pure (a : α) : Takes k start 0 0 (pure a : Prog σ ι ε α) :=
  fun _ _ _ => ⟨0, le_rfl, le_rfl, rfl⟩

theorem emit (e : ε) : Takes k start 0 0 (emit e : Prog σ ι ε Unit) :=
  fun _ _ _ => ⟨0, le_rfl, le_rfl, rfl⟩

theorem modify (f : σ → σ) : Takes k start 0 0 (modify f : Prog σ ι ε Unit) :=
  fun _ _ _ => ⟨0, le_rfl, le_rfl, rfl⟩

theorem get : Takes k start 0 0 (get : Prog σ ι ε σ) := fun _ _ _ => ⟨0, le_rfl, le_rfl, rfl⟩

theorem bind {m : Prog σ ι ε α} {f : α → Prog σ ι ε β} (hm : Takes k start least most m)
    (hf : ∀ a, Takes k start least' most' (f a)) :
    Takes k start (least + least') (most + most') (m >>= f) := by
  intro c hc hlen
  rw [wp_bind]
  refine wp_mono (hm c hc (Nat.le_of_add_right_le hlen)) (fun _ h => h) fun a c1 hp => ?_
  obtain ⟨p, hp, hp', h1⟩ := hp
  have hlen1 : most' ≤ c1.inputs.length := by
    rw [h1, List.length_drop]
    omega
  refine wp_mono (hf a c1 (h1 ▸ hc.drop p) hlen1) (fun _ h => h) fun _ c2 hq => ?_
  obtain ⟨q, hq, hq', h2⟩ := hq
  refine ⟨p + q, Nat.add_le_add hp hq, Nat.add_le_add hp' hq', ?_⟩
  rw [h2, h1, List.drop_drop]

/-- After a part that ends for another reason than the clock. -/
theorem after {m : Prog σ ι ε α} {f : α → Prog σ ι ε β} {c : Config σ ι ε}
    (hm : m.wp (fun _ => False) (fun _ => Reads most c) c)
    (hf : ∀ a, Takes k start 0 most' (f a)) (hc : k.Runs start c.inputs)
    (hlen : most + most' ≤ c.inputs.length) :
    (m >>= f).wp (fun _ => False) (fun _ => Reads (most + most') c) c := by
  rw [wp_bind]
  refine wp_mono hm (fun _ h => h) fun a c1 h1 => ?_
  exact wp_mono ((hf a).reads (h1.runs hc) (h1.length_le hlen)) (fun _ h => h)
    fun _ _ h2 => h1.trans h2

/-- After a reading of the clock, which is in its range. -/
theorem read_bind_of {f : ι → Prog σ ι ε α}
    (hf : ∀ i, k.tick i < k.limit → Takes k (k.tick i) least most (f i)) :
    Takes k start (least + 1) (most + 1) (read >>= f) := by
  intro c hc hlen
  rw [wp_bind]
  refine wp_read (fun h => ?_) fun i rest hi => ?_
  · rw [h] at hlen
    exact Nat.not_succ_le_zero _ hlen
  · rw [hi] at hc hlen
    have hrange := (hc.range i List.mem_cons_self).2
    refine wp_mono (hf i hrange _ hc.tail (Nat.le_of_succ_le_succ hlen)) (fun _ h => h) ?_
    rintro _ c' ⟨p, hp, hp', heq⟩
    refine ⟨p + 1, Nat.add_le_add_right hp 1, Nat.add_le_add_right hp' 1, ?_⟩
    rw [heq, hi, List.drop_succ_cons]

theorem read_bind {f : ι → Prog σ ι ε α} (hf : ∀ i, Takes k (k.tick i) least most (f i)) :
    Takes k start (least + 1) (most + 1) (read >>= f) := read_bind_of fun i _ => hf i

theorem ite {p : Prop} [Decidable p] {m m' : Prog σ ι ε α} (hm : Takes k start least most m)
    (hm' : Takes k start least most m') : Takes k start least most (if p then m else m') := by
  split
  · exact hm
  · exact hm'

/-- A way out that reads nothing. -/
theorem ite_pure {p : Prop} [Decidable p] {a : α} {m : Prog σ ι ε α} (h : Takes k start 0 most m) :
    Takes k start 0 most (if p then Pure.pure a else m) :=
  ite ((pure a).upTo (Nat.zero_le most)) h

theorem ite_else_pure {p : Prop} [Decidable p] {a : α} {m : Prog σ ι ε α}
    (h : Takes k start 0 most m) : Takes k start 0 most (if p then m else Pure.pure a) :=
  ite h ((pure a).upTo (Nat.zero_le most))

theorem zoom {get : σ → τ} {put : τ → σ → σ} {ev : δ → ε} {m : Prog τ ι δ α}
    (h : Takes k start least most m) : Takes k start least most (zoom get put ev m) :=
  fun c hc hlen => wp_zoom (h ⟨get c.st, c.inputs, []⟩ hc hlen) (fun _ h => h) fun _ _ h => h

/-- A loop each of whose rounds reads something and ends the loop if it begins
after the deadline. -/
theorem iter_until_of {body : γ → Prog σ ι ε (γ ⊕ β)} (Inv : γ → Prop) (time round : ℕ)
    (hbody : ∀ x, Inv x → Takes k start 1 round (body x))
    (hinv : ∀ x, Inv x → ∀ c, k.Runs start c.inputs →
      (body x).wp (fun _ => True) (fun r _ => ∀ y, r = .inl y → Inv y) c)
    (hlate : ∀ x, Inv x → ∀ c, k.Runs (start + time) c.inputs →
      (body x).wp (fun _ => True) (fun r _ => r.isRight = true) c) {x : γ} (hx : Inv x) :
    Takes k start 1 (k.pace * time + 2 * round) (iter body x) := by
  intro c hc hlen
  -- as long as the loop goes on, what it has read is from before the deadline, but for one round
  refine wp_iter_total (fun x c' => Inv x ∧ ∃ p, p ≤ k.pace * time + round ∧
    c'.inputs = c.inputs.drop p) ?_ ⟨hx, 0, Nat.zero_le _, rfl⟩
  rintro x c' ⟨hx, p, hp, heq⟩
  have hlen' : round ≤ c'.inputs.length := by
    rw [heq, List.length_drop]
    omega
  have hruns : k.Runs start c'.inputs := heq ▸ hc.drop p
  have hround := hbody x hx c' hruns hlen'
  have hfin : (body x).wp (fun _ => True) (fun r _ => k.pace * time ≤ p → r.isRight = true) c' := by
    cases hin : c'.inputs with
    | nil =>
      rw [hin] at hlen'
      refine wp_mono hround (fun _ _ => trivial) fun r c'' hq => ?_
      obtain ⟨q, hq, hq', -⟩ := hq
      exact absurd (hq.trans (hq'.trans hlen')) (Nat.not_succ_le_zero 0)
    | cons i rest =>
      have hget : c.inputs[p]? = some i := by
        rw [← List.head?_drop, ← heq, hin]
        rfl
      by_cases hlast : k.pace * time ≤ p
      · rw [hin] at hruns
        have hruns' : k.Runs (start + time) c'.inputs :=
          hin ▸ hruns.head.mono (hc.reached hlast hget)
        exact wp_mono (hlate x hx c' hruns') (fun _ h => h) fun _ _ h _ => h
      · exact wp_mono wp_true (fun _ h => h) fun _ _ _ h => absurd h hlast
  refine wp_mono (wp_and (wp_and hround hfin) (hinv x hx c' hruns)) (fun _ h => h) ?_
  rintro r c'' ⟨⟨⟨q, hq, hq', hdrop⟩, hright⟩, hkeeps⟩
  rw [heq, List.drop_drop] at hdrop
  cases r with
  | inr b => exact ⟨p + q, by omega, by omega, hdrop⟩
  | inl y =>
    have hearly : p < k.pace * time := Nat.lt_of_not_le fun hle =>
      Bool.false_ne_true (hright hle)
    refine ⟨⟨hkeeps y rfl, p + q, by omega, hdrop⟩, ?_⟩
    rw [hdrop, heq, List.length_drop, List.length_drop]
    rw [heq, List.length_drop] at hlen'
    omega

/-- The same for a loop whose rounds are all alike. -/
theorem iter_until {body : γ → Prog σ ι ε (γ ⊕ β)} (time round : ℕ)
    (hbody : ∀ x, Takes k start 1 round (body x))
    (hlate : ∀ x c, k.Runs (start + time) c.inputs →
      (body x).wp (fun _ => True) (fun r _ => r.isRight = true) c) (x : γ) :
    Takes k start 1 (k.pace * time + 2 * round) (iter body x) :=
  iter_until_of (fun _ => True) time round (fun x _ => hbody x)
    (fun _ _ _ _ => wp_mono wp_true (fun _ h => h) fun _ _ _ _ _ => trivial)
    (fun x _ => hlate x) trivial

/-- A loop each of whose rounds lowers a rank and reads something, if it is not the
last. -/
theorem iter_count_of {body : γ → Prog σ ι ε (γ ⊕ β)} (Inv : γ → Prop) (round : ℕ) (rank : γ → ℕ)
    (hbody : ∀ x, Inv x → ∀ c, k.Runs start c.inputs → round ≤ c.inputs.length →
      (body x).wp (fun _ => False) (fun r c' => ∃ p, p ≤ round ∧ c'.inputs = c.inputs.drop p ∧
        ∀ y, r = .inl y → Inv y ∧ 1 ≤ p ∧ rank y < rank x) c) {x : γ} (hx : Inv x) :
    Takes k start 0 (round * (rank x + 1)) (iter body x) := by
  intro c hc hlen
  refine wp_iter_total (fun y c' => Inv y ∧ ∃ p, p + round * (rank y + 1) ≤ round * (rank x + 1) ∧
    c'.inputs = c.inputs.drop p) ?_ ⟨hx, 0, by rw [Nat.zero_add], rfl⟩
  rintro y c' ⟨hy, p, hp, heq⟩
  have hround : round * (rank y + 1) = round * rank y + round := Nat.mul_succ _ _
  have hlen' : round ≤ c'.inputs.length := by
    rw [heq, List.length_drop]
    omega
  refine wp_mono (hbody y hy c' (heq ▸ hc.drop p) hlen') (fun _ h => h) ?_
  rintro r c'' ⟨q, hq, hdrop, hless⟩
  have hdrop' : c''.inputs = c.inputs.drop (p + q) := by rw [hdrop, heq, List.drop_drop]
  cases r with
  | inr b => exact ⟨p + q, Nat.zero_le _, by omega, hdrop'⟩
  | inl z =>
    obtain ⟨hinv, hread, hz⟩ := hless z rfl
    have hz' : round * (rank z + 1) ≤ round * rank y := Nat.mul_le_mul_left round hz
    refine ⟨⟨hinv, p + q, by omega, hdrop'⟩, ?_⟩
    rw [hdrop, List.length_drop]
    omega

/-- The same for a loop whose rounds are all alike. -/
theorem iter_count {body : γ → Prog σ ι ε (γ ⊕ β)} (round : ℕ) (rank : γ → ℕ)
    (hbody : ∀ x c, k.Runs start c.inputs → round ≤ c.inputs.length →
      (body x).wp (fun _ => False) (fun r c' => ∃ p, p ≤ round ∧ c'.inputs = c.inputs.drop p ∧
        ∀ y, r = .inl y → 1 ≤ p ∧ rank y < rank x) c) (x : γ) :
    Takes k start 0 (round * (rank x + 1)) (iter body x) :=
  iter_count_of (fun _ => True) round rank (fun x _ c hc hlen =>
    wp_mono (hbody x c hc hlen) (fun _ h => h) fun _ _ ⟨p, hp, hdrop, hless⟩ =>
      ⟨p, hp, hdrop, fun y hy => ⟨trivial, hless y hy⟩⟩) trivial

end Takes

end Prog

end Reactive
