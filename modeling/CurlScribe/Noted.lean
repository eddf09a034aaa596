/-!
Work that takes notes and may fail. The notes taken before a failure are kept.
-/

namespace CurlScribe

structure Noted (ν ε α : Type) where
  notes : List ν
  result : Except ε α

namespace Noted

variable {ν μ ε δ α β : Type}

protected def pure (a : α) : Noted ν ε α := ⟨[], .ok a⟩

protected def bind (x : Noted ν ε α) (f : α → Noted ν ε β) : Noted ν ε β :=
  match x.result with
  | .ok a => ⟨x.notes ++ (f a).notes, (f a).result⟩
  | .error e => ⟨x.notes, .error e⟩

instance : Monad (Noted ν ε) where
  pure := Noted.pure
  bind := Noted.bind

def note (notes : List ν) : Noted ν ε Unit := ⟨notes, .ok ()⟩

def fail (e : ε) : Noted ν ε α := ⟨[], .error e⟩

def ofExcept (r : Except ε α) : Noted ν ε α := ⟨[], r⟩

def mapNotes (f : ν → μ) (x : Noted ν ε α) : Noted μ ε α := ⟨x.notes.map f, x.result⟩

def mapError (f : ε → δ) (x : Noted ν ε α) : Noted ν δ α := ⟨x.notes, x.result.mapError f⟩

@[simp] theorem pure_eq (a : α) : (Pure.pure a : Noted ν ε α) = ⟨[], .ok a⟩ := rfl

@[simp] theorem bind_ok (notes : List ν) (a : α) (f : α → Noted ν ε β) :
    (Noted.mk notes (.ok a) >>= f) = ⟨notes ++ (f a).notes, (f a).result⟩ := rfl

@[simp] theorem bind_error (notes : List ν) (e : ε) (f : α → Noted ν ε β) :
    (Noted.mk notes (.error e) >>= f) = ⟨notes, .error e⟩ := rfl

@[simp] theorem note_eq (notes : List ν) : (note notes : Noted ν ε Unit) = ⟨notes, .ok ()⟩ := rfl

@[simp] theorem fail_eq (e : ε) : (fail e : Noted ν ε α) = ⟨[], .error e⟩ := rfl

@[simp] theorem ofExcept_eq (r : Except ε α) : (ofExcept r : Noted ν ε α) = ⟨[], r⟩ := rfl

theorem bind_eq_ok {x : Noted ν ε α} {f : α → Noted ν ε β} {notes : List ν} {b : β} :
    x >>= f = ⟨notes, .ok b⟩ ↔
      ∃ first a second, x = ⟨first, .ok a⟩ ∧ f a = ⟨second, .ok b⟩ ∧ notes = first ++ second := by
  constructor
  · rcases x with ⟨first, e | a⟩
    · simp
    · intro h
      rw [bind_ok] at h
      obtain ⟨hn, hr⟩ := (mk.injEq ..).mp h
      exact ⟨first, a, (f a).notes, rfl, by rw [← hr], hn.symm⟩
  · rintro ⟨first, a, second, rfl, h, rfl⟩
    simp [h]

instance : LawfulMonad (Noted ν ε) := LawfulMonad.mk' (Noted ν ε)
  (by rintro α ⟨notes, e | a⟩ <;> simp [Functor.map, Noted.bind, Noted.pure])
  (by intro α β a f; simp)
  (by
    rintro α β γ ⟨notes, e | a⟩ f g
    · simp
    · rcases h : f a with ⟨notes', e | b⟩ <;> simp [h])

end Noted

end CurlScribe
