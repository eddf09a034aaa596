import CurlScribe.Noted

/-!
What work with notes ensures, whichever way it ends: something of all its notes, something of its
outcome if it has one, and something of its failure if it fails.
-/

namespace CurlScribe

theorem bind_eq_ok_iff {ε α β : Type} {x : Except ε α} {f : α → Except ε β} {b : β} :
    x >>= f = .ok b ↔ ∃ a, x = .ok a ∧ f a = .ok b := by
  cases x <;> simp [bind, Except.bind]

theorem bind_eq_error_iff {ε α β : Type} {x : Except ε α} {f : α → Except ε β} {e : ε} :
    x >>= f = .error e ↔ x = .error e ∨ ∃ a, x = .ok a ∧ f a = .error e := by
  cases x <;> simp [bind, Except.bind]

theorem map_eq_ok_iff {ε α β : Type} {x : Except ε α} {f : α → β} {b : β} :
    f <$> x = .ok b ↔ ∃ a, x = .ok a ∧ f a = b := by
  cases x <;> simp [Functor.map, Except.map]

theorem map_eq_error_iff {ε α β : Type} {x : Except ε α} {f : α → β} {e : ε} :
    f <$> x = .error e ↔ x = .error e := by
  cases x <;> simp [Functor.map, Except.map]

theorem mapError_eq_ok_iff {ε δ α : Type} {x : Except ε α} {f : ε → δ} {a : α} :
    x.mapError f = .ok a ↔ x = .ok a := by
  cases x with
  | error e => exact ⟨nofun, nofun⟩
  | ok b =>
    change Except.ok b = Except.ok a ↔ Except.ok b = Except.ok a
    rw [Except.ok.injEq, Except.ok.injEq]

theorem mapError_eq_error_iff {ε δ α : Type} {x : Except ε α} {f : ε → δ} {d : δ} :
    x.mapError f = .error d ↔ ∃ e, x = .error e ∧ f e = d := by
  cases x with
  | error e =>
    change Except.error (f e) = Except.error d ↔ ∃ e', Except.error e = Except.error e' ∧ f e' = d
    simp
  | ok a => exact ⟨nofun, nofun⟩

theorem exists_eq_ok_iff {ε α : Type} {x : Except ε α} :
    (∃ a, x = .ok a) ↔ ∀ e, x ≠ .error e := by
  cases x <;> simp

namespace Noted

variable {ν ε α β : Type} {N : ν → Prop} {E : ε → Prop} {R : α → Prop} {S : β → Prop}

theorem eq_of_result {x : Noted ν ε α} {r : Except ε α} (h : x.result = r) : x = ⟨x.notes, r⟩ := by
  rw [← h]

theorem result_bind (x : Noted ν ε α) (f : α → Noted ν ε β) :
    (x >>= f).result = x.result >>= fun a => (f a).result := by
  rcases x with ⟨notes, e | a⟩ <;> rfl

theorem result_bind_eq_ok {x : Noted ν ε α} {f : α → Noted ν ε β} {b : β} :
    (x >>= f).result = .ok b ↔ ∃ a, x.result = .ok a ∧ (f a).result = .ok b := by
  rcases x with ⟨notes, e | a⟩ <;> simp

theorem result_bind_eq_error {x : Noted ν ε α} {f : α → Noted ν ε β} {e : ε} :
    (x >>= f).result = .error e ↔
      x.result = .error e ∨ ∃ a, x.result = .ok a ∧ (f a).result = .error e := by
  rcases x with ⟨notes, e' | a⟩ <;> simp

theorem note_bind_eq_ok {first notes : List ν} {f : Unit → Noted ν ε β} {b : β} :
    note first >>= f = ⟨notes, .ok b⟩ ↔ ∃ rest, f () = ⟨rest, .ok b⟩ ∧ notes = first ++ rest := by
  rw [bind_eq_ok]
  constructor
  · rintro ⟨_, _, rest, ⟨⟩, hf, rfl⟩
    exact ⟨rest, hf, rfl⟩
  · rintro ⟨rest, hf, rfl⟩
    exact ⟨first, (), rest, rfl, hf, rfl⟩

theorem ofExcept_bind_eq_ok {x : Except ε α} {f : α → Noted ν ε β} {notes : List ν} {b : β} :
    ofExcept x >>= f = ⟨notes, .ok b⟩ ↔ ∃ a, x = .ok a ∧ f a = ⟨notes, .ok b⟩ := by
  rw [bind_eq_ok]
  constructor
  · rintro ⟨_, a, rest, ⟨⟩, hf, rfl⟩
    exact ⟨a, rfl, hf⟩
  · rintro ⟨a, rfl, hf⟩
    exact ⟨[], a, notes, rfl, hf, rfl⟩

theorem bind_eq_error {x : Noted ν ε α} {f : α → Noted ν ε β} {notes : List ν} {e : ε} :
    x >>= f = ⟨notes, .error e⟩ ↔ x = ⟨notes, .error e⟩ ∨
      ∃ first a second, x = ⟨first, .ok a⟩ ∧ f a = ⟨second, .error e⟩ ∧ notes = first ++ second := by
  constructor
  · rcases x with ⟨first, e' | a⟩
    · simp
    · intro h
      rw [bind_ok] at h
      obtain ⟨hn, hr⟩ := (mk.injEq ..).mp h
      exact .inr ⟨first, a, (f a).notes, rfl, by rw [← hr], hn.symm⟩
  · rintro (rfl | ⟨first, a, second, rfl, h, rfl⟩)
    · rfl
    · simp [h]

def Ensures (N : ν → Prop) (R : α → Prop) (x : Noted ν ε α) : Prop :=
  (∀ n ∈ x.notes, N n) ∧ ∀ a, x.result = .ok a → R a

theorem Ensures.pure {a : α} (h : R a) : Ensures N R (Pure.pure a : Noted ν ε α) := by
  simp [Ensures, h]

theorem Ensures.note {notes : List ν} {R : Unit → Prop} (h : ∀ n ∈ notes, N n) (hR : R ()) :
    Ensures N R (Noted.note notes : Noted ν ε Unit) :=
  ⟨h, fun _ _ => hR⟩

theorem Ensures.fail (e : ε) : Ensures N R (Noted.fail e : Noted ν ε α) := by
  simp [Ensures]

theorem Ensures.ofExcept {r : Except ε α} (h : ∀ a, r = .ok a → R a) :
    Ensures N R (Noted.ofExcept r : Noted ν ε α) :=
  ⟨by simp, h⟩

theorem Ensures.bind {x : Noted ν ε α} {f : α → Noted ν ε β} (hx : Ensures N R x)
    (hf : ∀ a, R a → Ensures N S (f a)) : Ensures N S (x >>= f) := by
  rcases x with ⟨notes, e | a⟩
  · exact ⟨hx.1, by simp⟩
  · obtain ⟨hn, hr⟩ := hf a (hx.2 a rfl)
    rw [bind_ok]
    refine ⟨fun n h => ?_, hr⟩
    rcases List.mem_append.1 h with h | h
    · exact hx.1 n h
    · exact hn n h

theorem Ensures.outcome {x : Noted ν ε α} (h : Ensures N R x) :
    Ensures N (fun a => ∃ notes, x = ⟨notes, .ok a⟩) x :=
  ⟨h.1, fun _ ha => ⟨x.notes, eq_of_result ha⟩⟩

def FailsOnly (E : ε → Prop) (x : Noted ν ε α) : Prop := ∀ e, x.result = .error e → E e

theorem FailsOnly.done {notes : List ν} {a : α} : FailsOnly E (⟨notes, .ok a⟩ : Noted ν ε α) :=
  nofun

theorem FailsOnly.failed {notes : List ν} {e : ε} (h : E e) :
    FailsOnly E (⟨notes, .error e⟩ : Noted ν ε α) := by
  rintro _ ⟨⟩
  exact h

theorem FailsOnly.bind {x : Noted ν ε α} {f : α → Noted ν ε β} (hx : FailsOnly E x)
    (hf : ∀ a, FailsOnly E (f a)) : FailsOnly E (x >>= f) := by
  rcases x with ⟨notes, e | a⟩
  · exact .failed (hx e rfl)
  · exact hf a

end Noted

end CurlScribe
