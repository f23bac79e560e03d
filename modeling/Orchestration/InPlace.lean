namespace Orchestration

-- Work on a state that is changed in place. It ends with a value or with a fault, and what was
-- written before a fault stays written.
def InPlace (σ ε α : Type) : Type := σ → Except ε α × σ

namespace InPlace

variable {σ ε α β : Type}

def pure (a : α) : InPlace σ ε α := fun s => (.ok a, s)

def bind (x : InPlace σ ε α) (f : α → InPlace σ ε β) : InPlace σ ε β := fun s =>
  match x s with
  | (.ok a, t) => f a t
  | (.error fault, t) => (.error fault, t)

instance : Monad (InPlace σ ε) where
  pure := pure
  bind := bind

-- What the state shows. A fault in it ends the work.
def read (f : σ → Except ε α) : InPlace σ ε α := fun s => (f s, s)

def write (f : σ → σ) : InPlace σ ε Unit := fun s => (.ok (), f s)

-- A write that is made as a whole or not at all.
def attempt (f : σ → Except ε σ) : InPlace σ ε Unit := fun s =>
  match f s with
  | .ok t => (.ok (), t)
  | .error fault => (.error fault, s)

-- The value and the state that the work ends with, or its fault.
def outcome (x : InPlace σ ε α) (s : σ) : Except ε (α × σ) :=
  match x s with
  | (.ok a, t) => .ok (a, t)
  | (.error fault, _) => .error fault

@[simp] theorem read_bind (f : σ → Except ε α) (k : α → InPlace σ ε β) (s : σ) :
    (read f >>= k) s = match f s with
      | .ok a => k a s
      | .error fault => (.error fault, s) := by
  show bind (read f) k s = _
  unfold bind read
  cases f s <;> rfl

@[simp] theorem attempt_bind (f : σ → Except ε σ) (k : Unit → InPlace σ ε β) (s : σ) :
    (attempt f >>= k) s = match f s with
      | .ok t => k () t
      | .error fault => (.error fault, s) := by
  show bind (attempt f) k s = _
  unfold bind attempt
  cases f s <;> rfl

theorem outcome_eq_ok {x : InPlace σ ε α} {s t : σ} {a : α} : x.outcome s = .ok (a, t) ↔ x s = (.ok a, t) := by
  unfold outcome
  split
  · rename_i same
    simp [same]
  · rename_i same
    simp [same]

theorem outcome_eq_error {x : InPlace σ ε α} {s : σ} {fault : ε} :
    x.outcome s = .error fault ↔ ∃ t, x s = (.error fault, t) := by
  unfold outcome
  split
  · rename_i same
    simp [same]
  · rename_i same
    simp [same]

theorem read_parts {f : σ → Except ε α} {k : α → InPlace σ ε β} (done : (read f >>= k) s = (.ok b, t)) :
    ∃ a, f s = .ok a ∧ k a s = (.ok b, t) := by
  rw [read_bind] at done
  cases seen : f s with
  | ok a => exact ⟨a, rfl, by simpa only [seen] using done⟩
  | error fault => simp [seen] at done

theorem bind_parts {x : InPlace σ ε α} {k : α → InPlace σ ε β} (done : (x >>= k) s = (.ok b, t)) :
    ∃ a u, x s = (.ok a, u) ∧ k a u = (.ok b, t) := by
  change bind x k s = _ at done
  unfold bind at done
  split at done
  · rename_i a u first
    exact ⟨a, u, first, done⟩
  · cases done

-- Work that ends well whatever the state is.
def Certain (x : InPlace σ ε α) : Prop := ∀ s, ∃ a t, x s = (.ok a, t)

-- Work that has written nothing where it ends with a fault.
def Careful (x : InPlace σ ε α) : Prop := ∀ s fault t, x s = (.error fault, t) → t = s

theorem certain_pure (a : α) : Certain (Pure.pure a : InPlace σ ε α) := fun s => ⟨a, s, rfl⟩

theorem certain_write_bind {f : σ → σ} {k : Unit → InPlace σ ε β} (certain : Certain (k ())) :
    Certain (write f >>= k) := fun s => certain (f s)

theorem certain_write (f : σ → σ) : Certain (InPlace.write f : InPlace σ ε Unit) := fun s => ⟨(), f s, rfl⟩

theorem Certain.careful {x : InPlace σ ε α} (certain : Certain x) : Careful x := by
  intro s fault t refused
  obtain ⟨a, u, done⟩ := certain s
  rw [done] at refused
  cases refused

theorem careful_pure (a : α) : Careful (Pure.pure a : InPlace σ ε α) := (certain_pure a).careful

theorem careful_write {f : σ → σ} {k : Unit → InPlace σ ε β} (certain : Certain (k ())) :
    Careful (write f >>= k) := (certain_write_bind certain).careful

-- Any number of reads, and only then what is certain.
theorem careful_read {f : σ → Except ε α} {k : α → InPlace σ ε β} (careful : ∀ a, Careful (k a)) :
    Careful (read f >>= k) := by
  intro s fault t refused
  rw [read_bind] at refused
  cases seen : f s with
  | ok a =>
    rw [seen] at refused
    exact careful a s fault t refused
  | error other =>
    rw [seen] at refused
    exact (Prod.mk.inj refused).2.symm

theorem Careful.bind {x : InPlace σ ε α} {k : α → InPlace σ ε β} (careful : Careful x)
    (certain : ∀ a, Certain (k a)) : Careful (x >>= k) := by
  intro s fault t refused
  change InPlace.bind x k s = _ at refused
  unfold InPlace.bind at refused
  split at refused
  · rename_i a u first
    obtain ⟨b, v, done⟩ := certain a u
    rw [done] at refused
    cases refused
  · rename_i other u first
    cases refused
    exact careful s fault t first

end InPlace
end Orchestration
