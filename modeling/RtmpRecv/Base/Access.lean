import RtmpRecv.Base.Mem

/-!
# Programs over one buffer

Library `Base`. A program reads and writes single bytes of one buffer, may fail, and
returns a value. It has two readings: its run on a memory, and the list of positions it
touches there. The frame and the locality rule are proved once, by induction on programs:
what a program does not touch stays as it was, and the run depends on the memory only
through the positions touched.
-/

namespace RtmpRecv.Base

/-- A program over one byte buffer with errors in `ε`. -/
inductive Access (ε : Type) (α : Type) : Type where
  | ret (a : α)
  | fail (e : ε)
  | read (i : Nat) (next : UInt8 → Access ε α)
  | write (i : Nat) (b : UInt8) (next : Access ε α)

namespace Access

variable {ε α β : Type}

/-- Sequential composition. -/
def bind : Access ε α → (α → Access ε β) → Access ε β
  | ret a, f => f a
  | fail e, _ => fail e
  | read i next, f => read i fun b ↦ (next b).bind f
  | write i b next, f => write i b (next.bind f)

instance : Monad (Access ε) where
  pure := ret
  bind := bind

/-- Read one byte. -/
def get (i : Nat) : Access ε UInt8 := read i ret

/-- Write one byte. -/
def put (i : Nat) (b : UInt8) : Access ε Unit := write i b (ret ())

/-- Read `n` bytes from offset `off` on. -/
def getList (off : Nat) : Nat → Access ε (List UInt8)
  | 0 => ret []
  | n + 1 => read off fun b ↦ (getList (off + 1) n).bind fun bs ↦ ret (b :: bs)

/-- The result and the memory after a run. -/
def run : Access ε α → Mem → Except ε α × Mem
  | ret a, m => (.ok a, m)
  | fail e, m => (.error e, m)
  | read i next, m => (next (m i)).run m
  | write i b next, m => next.run (m.set i b)

/-- The positions a run reads or writes, in order. -/
def touched : Access ε α → Mem → List Nat
  | ret _, _ => []
  | fail _, _ => []
  | read i next, m => i :: (next (m i)).touched m
  | write i b next, m => i :: next.touched (m.set i b)

/-! ### Equations -/

@[simp] theorem pure_eq_ret (a : α) : (pure a : Access ε α) = ret a := rfl

@[simp] theorem bind_eq (p : Access ε α) (f : α → Access ε β) : p >>= f = p.bind f := rfl

@[simp] theorem ret_bind (a : α) (f : α → Access ε β) : (ret a).bind f = f a := rfl

@[simp] theorem fail_bind (e : ε) (f : α → Access ε β) : (fail e).bind f = fail e := rfl

@[simp] theorem read_bind (i : Nat) (next : UInt8 → Access ε α) (f : α → Access ε β) :
    (read i next).bind f = read i fun b ↦ (next b).bind f := rfl

@[simp] theorem write_bind (i : Nat) (b : UInt8) (next : Access ε α) (f : α → Access ε β) :
    (write i b next).bind f = write i b (next.bind f) := rfl

@[simp] theorem get_bind (i : Nat) (f : UInt8 → Access ε β) : (get i).bind f = read i f := rfl

@[simp] theorem put_bind (i : Nat) (b : UInt8) (f : Unit → Access ε β) :
    (put i b).bind f = write i b (f ()) := rfl

@[simp] theorem run_ret (a : α) (m : Mem) : (ret a : Access ε α).run m = (.ok a, m) := rfl

@[simp] theorem run_fail (e : ε) (m : Mem) :
    (fail e : Access ε α).run m = (.error e, m) := rfl

@[simp] theorem run_read (i : Nat) (next : UInt8 → Access ε α) (m : Mem) :
    (read i next).run m = (next (m i)).run m := rfl

@[simp] theorem run_write (i : Nat) (b : UInt8) (next : Access ε α) (m : Mem) :
    (write i b next).run m = next.run (m.set i b) := rfl

@[simp] theorem touched_ret (a : α) (m : Mem) : (ret a : Access ε α).touched m = [] := rfl

@[simp] theorem touched_fail (e : ε) (m : Mem) : (fail e : Access ε α).touched m = [] := rfl

@[simp] theorem touched_read (i : Nat) (next : UInt8 → Access ε α) (m : Mem) :
    (read i next).touched m = i :: (next (m i)).touched m := rfl

@[simp] theorem touched_write (i : Nat) (b : UInt8) (next : Access ε α) (m : Mem) :
    (write i b next).touched m = i :: next.touched (m.set i b) := rfl

/-- A composition runs its second part on what the first one left. -/
theorem run_bind (p : Access ε α) (f : α → Access ε β) (m : Mem) :
    (p.bind f).run m =
      match p.run m with
      | (.ok a, m') => (f a).run m'
      | (.error e, m') => (.error e, m') := by
  induction p generalizing m with
  | ret a => rfl
  | fail e => rfl
  | read i next ih => exact ih (m i) m
  | write i b next ih => exact ih (m.set i b)

/-- A composition touches what its parts touch. -/
theorem touched_bind (p : Access ε α) (f : α → Access ε β) (m : Mem) :
    (p.bind f).touched m = p.touched m ++
      match p.run m with
      | (.ok a, m') => (f a).touched m'
      | (.error _, _) => [] := by
  induction p generalizing m with
  | ret a => rfl
  | fail e => rfl
  | read i next ih =>
    simp only [read_bind, touched_read, run_read, List.cons_append, ih]
  | write i b next ih =>
    simp only [write_bind, touched_write, run_write, List.cons_append, ih]

/-- Running a composition whose first part succeeds. -/
theorem run_bind_ok {p : Access ε α} {m m' : Mem} {a : α} (h : p.run m = (.ok a, m'))
    (f : α → Access ε β) : (p.bind f).run m = (f a).run m' := by
  rw [run_bind, h]

/-- Running a composition whose first part fails. -/
theorem run_bind_error {p : Access ε α} {m m' : Mem} {e : ε} (h : p.run m = (.error e, m'))
    (f : α → Access ε β) : (p.bind f).run m = (.error e, m') := by
  rw [run_bind, h]

/-- Positions of a composition whose first part succeeds. -/
theorem touched_bind_ok {p : Access ε α} {m m' : Mem} {a : α} (h : p.run m = (.ok a, m'))
    (f : α → Access ε β) : (p.bind f).touched m = p.touched m ++ (f a).touched m' := by
  rw [touched_bind, h]

/-- Positions of a composition whose first part fails. -/
theorem touched_bind_error {p : Access ε α} {m m' : Mem} {e : ε}
    (h : p.run m = (.error e, m')) (f : α → Access ε β) :
    (p.bind f).touched m = p.touched m := by
  rw [touched_bind, h, List.append_nil]

/-- Reading a list returns the slice and leaves the memory. -/
@[simp] theorem run_getList (off n : Nat) (m : Mem) :
    (getList off n : Access ε (List UInt8)).run m = (.ok (m.slice off n), m) := by
  induction n generalizing off with
  | zero => rfl
  | succ n ih =>
    rw [getList, run_read, run_bind, ih, Mem.slice_succ]
    rfl

/-- Reading a list touches exactly its positions. -/
theorem touched_getList (off n : Nat) (m : Mem) :
    (getList off n : Access ε (List UInt8)).touched m = List.range' off n := by
  induction n generalizing off with
  | zero => rfl
  | succ n ih =>
    rw [getList, touched_read, touched_bind_ok (run_getList _ _ _), ih, touched_ret,
      List.append_nil, List.range'_succ]

/-! ### Frame and locality -/

/-- A position that a run does not touch keeps its byte. -/
theorem run_frame (p : Access ε α) (m : Mem) (i : Nat) (h : i ∉ p.touched m) :
    (p.run m).2 i = m i := by
  induction p generalizing m with
  | ret a => rfl
  | fail e => rfl
  | read j next ih => exact ih (m j) m (fun hi ↦ h (List.mem_cons_of_mem _ hi))
  | write j b next ih =>
    rw [run_write, ih (m.set j b) (fun hi ↦ h (List.mem_cons_of_mem _ hi))]
    apply Mem.set_other
    rintro rfl
    exact h List.mem_cons_self

/-- The memories agree on a set of positions. -/
def AgreeOn (S : Nat → Prop) (m m' : Mem) : Prop := ∀ i, S i → m i = m' i

/-- Two memories that agree on a set containing the touched positions give the same
result and the same positions, and they agree on that set afterwards. -/
theorem run_local (p : Access ε α) (m m' : Mem) (S : Nat → Prop) (hm : AgreeOn S m m')
    (ht : ∀ i ∈ p.touched m, S i) :
    (p.run m').1 = (p.run m).1 ∧ p.touched m' = p.touched m ∧
      AgreeOn S (p.run m).2 (p.run m').2 := by
  induction p generalizing m m' with
  | ret a => exact ⟨rfl, rfl, hm⟩
  | fail e => exact ⟨rfl, rfl, hm⟩
  | read i next ih =>
    have hi : m i = m' i := hm i (ht i List.mem_cons_self)
    obtain ⟨h1, h2, h3⟩ := ih (m i) m m' hm (fun j hj ↦ ht j (List.mem_cons_of_mem _ hj))
    simp only [run_read, touched_read, ← hi]
    exact ⟨h1, by rw [h2], h3⟩
  | write i b next ih =>
    have hs : AgreeOn S (m.set i b) (m'.set i b) := by
      intro j hj
      by_cases he : j = i
      · subst he; simp
      · rw [Mem.set_other _ _ _ _ he, Mem.set_other _ _ _ _ he, hm j hj]
    obtain ⟨h1, h2, h3⟩ := ih (m.set i b) (m'.set i b) hs
      (fun j hj ↦ ht j (List.mem_cons_of_mem _ hj))
    exact ⟨h1, by simp only [touched_write, h2], h3⟩

/-- A run stays inside the first `n` bytes. -/
def Within (p : Access ε α) (m : Mem) (n : Nat) : Prop := ∀ i ∈ p.touched m, i < n

/-- Composition of runs that stay inside. -/
theorem Within.bind {p : Access ε α} {f : α → Access ε β} {m m' : Mem} {n : Nat} {a : α}
    (hr : p.run m = (.ok a, m')) (hp : p.Within m n) (hf : (f a).Within m' n) :
    (p.bind f).Within m n := by
  intro i hi
  rw [touched_bind_ok hr, List.mem_append] at hi
  exact hi.elim (hp i) (hf i)

/-- The parts of a composition that stays inside stay inside. -/
theorem within_bind_iff {p : Access ε α} {f : α → Access ε β} {m m' : Mem} {n : Nat} {a : α}
    (hr : p.run m = (.ok a, m')) :
    (p.bind f).Within m n ↔ p.Within m n ∧ (f a).Within m' n := by
  unfold Within
  rw [touched_bind_ok hr]
  simp only [List.mem_append]
  constructor
  · intro h
    exact ⟨fun i hi ↦ h i (Or.inl hi), fun i hi ↦ h i (Or.inr hi)⟩
  · rintro ⟨hp, hf⟩ i (hi | hi)
    · exact hp i hi
    · exact hf i hi

@[simp] theorem within_ret (a : α) (m : Mem) (n : Nat) : (ret a : Access ε α).Within m n := by
  simp [Within]

@[simp] theorem within_fail (e : ε) (m : Mem) (n : Nat) :
    (fail e : Access ε α).Within m n := by
  simp [Within]

@[simp] theorem within_read (i : Nat) (next : UInt8 → Access ε α) (m : Mem) (n : Nat) :
    (read i next).Within m n ↔ i < n ∧ (next (m i)).Within m n := by
  simp [Within]

@[simp] theorem within_write (i : Nat) (b : UInt8) (next : Access ε α) (m : Mem) (n : Nat) :
    (write i b next).Within m n ↔ i < n ∧ next.Within (m.set i b) n := by
  simp [Within]

/-- Reading a list stays inside exactly when the list ends inside or is empty. -/
theorem within_getList (off k : Nat) (m : Mem) (n : Nat) :
    (getList off k : Access ε (List UInt8)).Within m n ↔ k = 0 ∨ off + k ≤ n := by
  unfold Within
  rw [touched_getList]
  simp only [List.mem_range'_1]
  constructor
  · intro h
    by_cases hk : k = 0
    · exact Or.inl hk
    · have := h (off + k - 1) (by omega)
      omega
  · intro h i hi
    omega

/-- A run inside the first `n` bytes depends on nothing else and changes nothing else. -/
theorem Within.run_eq {p : Access ε α} {m m' : Mem} {n : Nat} (hw : p.Within m n)
    (hm : ∀ i, i < n → m i = m' i) :
    (p.run m').1 = (p.run m).1 ∧ p.Within m' n ∧
      (∀ i, i < n → (p.run m).2 i = (p.run m').2 i) ∧
      (∀ i, n ≤ i → (p.run m).2 i = m i) := by
  obtain ⟨h1, h2, h3⟩ := run_local p m m' (fun i ↦ i < n) hm hw
  refine ⟨h1, ?_, h3, ?_⟩
  · intro i hi
    rw [h2] at hi
    exact hw i hi
  · intro i hi
    apply run_frame
    intro ht
    exact absurd (hw i ht) (by omega)

/-- The first part of a composition that stays inside stays inside. -/
theorem Within.of_bind {p : Access ε α} {f : α → Access ε β} {m : Mem} {n : Nat}
    (h : (p.bind f).Within m n) : p.Within m n := by
  intro i hi
  refine h i ?_
  rw [touched_bind]
  exact List.mem_append_left _ hi

/-- A composition whose second part touches nothing beyond stays inside if its first part does. -/
theorem within_bind_of_forall {p : Access ε α} {f : α → Access ε β} {m : Mem} {n : Nat}
    (hf : ∀ a m', (f a).Within m' n) : (p.bind f).Within m n ↔ p.Within m n := by
  cases hx : p.run m with
  | mk r m₁ =>
    cases r with
    | error e =>
      unfold Within
      rw [touched_bind_error hx]
    | ok a =>
      rw [within_bind_iff hx]
      exact and_iff_left (hf a m₁)

/-! ### Results on every memory -/

/-- Every value a program returns satisfies `Q`, on every memory. -/
def Returns (p : Access ε α) (Q : α → Prop) : Prop :=
  ∀ m a m', p.run m = (.ok a, m') → Q a

theorem Returns.ret {Q : α → Prop} {a : α} (h : Q a) : (ret a : Access ε α).Returns Q := by
  intro m b m' hr
  cases hr
  exact h

theorem Returns.fail {Q : α → Prop} {e : ε} : (Access.fail e : Access ε α).Returns Q := by
  intro m b m' hr
  cases hr

theorem Returns.read {Q : α → Prop} {i : Nat} {next : UInt8 → Access ε α}
    (h : ∀ b, (next b).Returns Q) : (Access.read i next).Returns Q :=
  fun m a m' hr ↦ h (m i) m a m' hr

theorem Returns.write {Q : α → Prop} {i : Nat} {b : UInt8} {next : Access ε α}
    (h : next.Returns Q) : (Access.write i b next).Returns Q :=
  fun m a m' hr ↦ h (m.set i b) a m' hr

/-- The rule of composition. -/
theorem Returns.bind {P : α → Prop} {Q : β → Prop} {p : Access ε α} {f : α → Access ε β}
    (hp : p.Returns P) (hf : ∀ a, P a → (f a).Returns Q) : (p.bind f).Returns Q := by
  intro m b m' hr
  cases hx : p.run m with
  | mk r m₁ =>
    cases r with
    | error e =>
      rw [run_bind_error hx] at hr
      cases hr
    | ok a =>
      rw [run_bind_ok hx] at hr
      exact hf a (hp m a m₁ hx) m₁ b m' hr

/-- A composition whose second part always satisfies `Q`. -/
theorem Returns.bind_of_forall {Q : β → Prop} {p : Access ε α} {f : α → Access ε β}
    (hf : ∀ a, (f a).Returns Q) : (p.bind f).Returns Q :=
  Returns.bind (P := fun _ ↦ True) (fun _ _ _ _ ↦ trivial) (fun a _ ↦ hf a)

theorem Returns.mono {P Q : α → Prop} {p : Access ε α} (h : p.Returns P)
    (hi : ∀ a, P a → Q a) : p.Returns Q :=
  fun m a m' hr ↦ hi a (h m a m' hr)

/-- Every run ends without failing, with a value that satisfies `Q`. -/
def Ends (p : Access ε α) (Q : α → Prop) : Prop :=
  ∀ m, ∃ a m', p.run m = (.ok a, m') ∧ Q a

theorem Ends.ret {Q : α → Prop} {a : α} (h : Q a) : (ret a : Access ε α).Ends Q :=
  fun m ↦ ⟨a, m, rfl, h⟩

theorem Ends.read {Q : α → Prop} {i : Nat} {next : UInt8 → Access ε α}
    (h : ∀ b, (next b).Ends Q) : (Access.read i next).Ends Q :=
  fun m ↦ h (m i) m

/-- The rule of composition. -/
theorem Ends.bind {P : α → Prop} {Q : β → Prop} {p : Access ε α} {f : α → Access ε β}
    (hp : p.Ends P) (hf : ∀ a, P a → (f a).Ends Q) : (p.bind f).Ends Q := by
  intro m
  obtain ⟨a, m₁, hr, ha⟩ := hp m
  obtain ⟨b, m₂, hr', hb⟩ := hf a ha m₁
  exact ⟨b, m₂, by rw [run_bind_ok hr, hr'], hb⟩

theorem Ends.getList {off n : Nat} :
    (Access.getList off n : Access ε (List UInt8)).Ends fun bytes ↦ bytes.length = n :=
  fun m ↦ ⟨_, _, run_getList off n m, Mem.length_slice _ _ _⟩

/-- A program that ends in `Q` returns values that satisfy it. -/
theorem Ends.returns {Q : α → Prop} {p : Access ε α} (h : p.Ends Q) : p.Returns Q := by
  intro m a m' hr
  obtain ⟨b, m₁, hr', hb⟩ := h m
  rw [hr] at hr'
  cases hr'
  exact hb

/-! ### Staying inside on every memory -/

/-- Every run stays inside the first `n` bytes. -/
def Stays (p : Access ε α) (n : Nat) : Prop := ∀ m, p.Within m n

theorem Stays.ret {a : α} {n : Nat} : (ret a : Access ε α).Stays n :=
  fun m ↦ within_ret a m n

theorem Stays.fail {e : ε} {n : Nat} : (Access.fail e : Access ε α).Stays n :=
  fun m ↦ within_fail e m n

theorem Stays.read {i n : Nat} {next : UInt8 → Access ε α} (hi : i < n)
    (h : ∀ b, (next b).Stays n) : (Access.read i next).Stays n :=
  fun m ↦ (within_read i next m n).2 ⟨hi, h (m i) m⟩

theorem Stays.getList {off k n : Nat} (h : off + k ≤ n) :
    (Access.getList off k : Access ε (List UInt8)).Stays n :=
  fun m ↦ (within_getList off k m n).2 (Or.inr h)

/-- The rule of composition: the second part is given what the first one returns. -/
theorem Stays.bind {n : Nat} {Q : α → Prop} {p : Access ε α} {f : α → Access ε β}
    (hp : p.Stays n) (hq : p.Returns Q) (hf : ∀ a, Q a → (f a).Stays n) : (p.bind f).Stays n := by
  intro m
  cases hx : p.run m with
  | mk r m₁ =>
    cases r with
    | error e =>
      unfold Within
      rw [touched_bind_error hx]
      exact hp m
    | ok a => exact Within.bind hx (hp m) (hf a (hq m a m₁ hx) m₁)

/-- The rule of composition where the value does not matter. -/
theorem Stays.bind_of_forall {n : Nat} {p : Access ε α} {f : α → Access ε β} (hp : p.Stays n)
    (hf : ∀ a, (f a).Stays n) : (p.bind f).Stays n :=
  Stays.bind (Q := fun _ ↦ True) hp (fun _ _ _ _ ↦ trivial) fun a _ ↦ hf a

/-- Both branches stay inside. -/
theorem Stays.ite {n : Nat} {c : Prop} [Decidable c] {p q : Access ε α} (hp : c → p.Stays n)
    (hq : ¬c → q.Stays n) : (if c then p else q).Stays n := by
  split
  · next h => exact hp h
  · next h => exact hq h

/-! ### Writes -/

/-- No run changes a byte from offset `n` on. -/
def KeepsFrom (p : Access ε α) (n : Nat) : Prop := ∀ m i, n ≤ i → (p.run m).2 i = m i

theorem KeepsFrom.ret {a : α} {n : Nat} : (ret a : Access ε α).KeepsFrom n :=
  fun _ _ _ ↦ rfl

theorem KeepsFrom.fail {e : ε} {n : Nat} : (Access.fail e : Access ε α).KeepsFrom n :=
  fun _ _ _ ↦ rfl

theorem KeepsFrom.read {i n : Nat} {next : UInt8 → Access ε α}
    (h : ∀ b, (next b).KeepsFrom n) : (Access.read i next).KeepsFrom n :=
  fun m j hj ↦ h (m i) m j hj

theorem KeepsFrom.write {i n : Nat} {b : UInt8} {next : Access ε α} (hi : i < n)
    (h : next.KeepsFrom n) : (Access.write i b next).KeepsFrom n := by
  intro m j hj
  rw [run_write, h (m.set i b) j hj]
  exact Mem.set_other _ _ _ _ (by omega)

/-- The rule of composition. -/
theorem KeepsFrom.bind {n : Nat} {p : Access ε α} {f : α → Access ε β} (hp : p.KeepsFrom n)
    (hf : ∀ a, (f a).KeepsFrom n) : (p.bind f).KeepsFrom n := by
  intro m i hi
  have hm := hp m i hi
  cases hx : p.run m with
  | mk r m₁ =>
    rw [hx] at hm
    cases r with
    | error e => rw [run_bind_error hx, hm]
    | ok a =>
      rw [run_bind_ok hx, hf a m₁ i hi]
      exact hm

theorem KeepsFrom.getList {off k n : Nat} :
    (Access.getList off k : Access ε (List UInt8)).KeepsFrom n := by
  intro m i _
  rw [run_getList]

/-! ### Faults that do not occur -/

/-- No run ends with the fault `e`. -/
def Avoids (p : Access ε α) (e : ε) : Prop := ∀ m, (p.run m).1 ≠ .error e

theorem Avoids.ret {a : α} {e : ε} : (ret a : Access ε α).Avoids e := by
  intro m h
  cases h

theorem Avoids.fail {e e' : ε} (h : e' ≠ e) : (Access.fail e' : Access ε α).Avoids e := by
  intro m hrun
  injection hrun with heq
  exact h heq

theorem Avoids.read {i : Nat} {next : UInt8 → Access ε α} {e : ε}
    (h : ∀ b, (next b).Avoids e) : (Access.read i next).Avoids e :=
  fun m ↦ h (m i) m

/-- The rule of composition. -/
theorem Avoids.bind {p : Access ε α} {f : α → Access ε β} {e : ε} (hp : p.Avoids e)
    (hf : ∀ a, (f a).Avoids e) : (p.bind f).Avoids e := by
  intro m
  have hm := hp m
  cases hx : p.run m with
  | mk r m₁ =>
    rw [hx] at hm
    cases r with
    | error e' =>
      rw [run_bind_error hx]
      exact fun h ↦ hm (congrArg _ (Except.error.inj h))
    | ok a =>
      rw [run_bind_ok hx]
      exact hf a m₁

/-- A program that ends avoids every fault. -/
theorem Ends.avoids {Q : α → Prop} {p : Access ε α} (h : p.Ends Q) (e : ε) : p.Avoids e := by
  intro m hrun
  obtain ⟨a, m', hr, -⟩ := h m
  rw [hr] at hrun
  cases hrun

/-! ### Two programs side by side -/

/-- The programs make the same accesses, fail alike, and return values related by `R`. -/
inductive Rel (R : α → β → Prop) : Access ε α → Access ε β → Prop where
  | ret {a : α} {b : β} (h : R a b) : Rel R (.ret a) (.ret b)
  | fail {e : ε} : Rel R (.fail e) (.fail e)
  | read {i : Nat} {next : UInt8 → Access ε α} {next' : UInt8 → Access ε β}
      (h : ∀ b, Rel R (next b) (next' b)) : Rel R (.read i next) (.read i next')
  | write {i : Nat} {b : UInt8} {next : Access ε α} {next' : Access ε β}
      (h : Rel R next next') : Rel R (.write i b next) (.write i b next')

/-- A program stands beside itself. -/
theorem Rel.refl {R : α → α → Prop} (p : Access ε α) (h : ∀ a, R a a) : Rel R p p := by
  induction p with
  | ret a => exact .ret (h a)
  | fail e => exact .fail
  | read i next ih => exact .read ih
  | write i b next ih => exact .write ih

/-- The rule of composition. -/
theorem Rel.bind {α' β' : Type} {R : α → β → Prop} {S : α' → β' → Prop} {p : Access ε α}
    {q : Access ε β} {f : α → Access ε α'} {g : β → Access ε β'} (hp : Rel R p q)
    (hf : ∀ a b, R a b → Rel S (f a) (g b)) : Rel S (p.bind f) (q.bind g) := by
  induction hp with
  | ret h => exact hf _ _ h
  | fail => exact .fail
  | read _ ih => exact .read ih
  | write _ ih => exact .write ih

/-- Composition with the same first part. -/
theorem Rel.bind_same {α' β' : Type} {S : α' → β' → Prop} {p : Access ε α}
    {f : α → Access ε α'} {g : α → Access ε β'} (hf : ∀ a, Rel S (f a) (g a)) :
    Rel S (p.bind f) (p.bind g) :=
  Rel.bind (Rel.refl (R := Eq) p fun _ ↦ rfl) fun a _ h ↦ h ▸ hf a

/-- Both programs branch on the same condition. -/
theorem Rel.ite {R : α → β → Prop} {c : Prop} [Decidable c] {p p' : Access ε α}
    {q q' : Access ε β} (ht : c → Rel R p q) (hf : ¬c → Rel R p' q') :
    Rel R (if c then p else p') (if c then q else q') := by
  split
  · next h => exact ht h
  · next h => exact hf h

/-- Programs side by side leave the same memory and end alike. -/
theorem Rel.run {R : α → β → Prop} {p : Access ε α} {q : Access ε β} (h : Rel R p q) (m : Mem) :
    (∃ a b m', p.run m = (.ok a, m') ∧ q.run m = (.ok b, m') ∧ R a b) ∨
      ∃ e m', p.run m = (.error e, m') ∧ q.run m = (.error e, m') := by
  induction h generalizing m with
  | ret h => exact Or.inl ⟨_, _, m, rfl, rfl, h⟩
  | fail => exact Or.inr ⟨_, m, rfl, rfl⟩
  | read _ ih => exact ih (m _) m
  | write _ ih => exact ih (m.set _ _)

/-- A program beside itself returns values related to themselves. -/
theorem Rel.returns {R : α → α → Prop} {p : Access ε α} (h : Rel R p p) :
    p.Returns fun a ↦ R a a := by
  intro m a m' hr
  obtain ⟨x, y, m₁, hx, hy, hxy⟩ | ⟨e, m₁, hx, _⟩ := h.run m
  · rw [hr] at hx hy
    cases hx
    cases hy
    exact hxy
  · rw [hr] at hx
    cases hx

end Access
end RtmpRecv.Base
