import Conveyor.Proofs.Store.Table
import Conveyor.Store.Lifecycle
import Conveyor.Store.Workers
import Conveyor.Store.Queries
import Conveyor.Store.Snapshot

/-!
# Running store operations

`Store.exec m s` runs the store operation `m` from the store `s`: it gives the outcome and the store the
operation leaves, with the writes made before a failure kept. Below are the equations of `exec` for the
monad's primitives (`exec_bind`, `exec_map`) and for the store's own reads and writes (`exec_parent_of_find`,
`exec_putParent`, `exec_ownedChild_of_find`, ...). A record is read through the lemmas on keyed tables
(`Table.find?_put`).
-/

namespace Conveyor

/-- A property of programs that every `pure` has and `bind` keeps holds of a fold whose steps all have it.
What a store program writes, and how it may fail, are properties of this kind. -/
theorem foldlM_of_bind {m : Type → Type} [Monad m] {P : ∀ {α : Type}, m α → Prop}
    (hpure : ∀ {α : Type} (a : α), P (pure a))
    (hbind : ∀ {α β : Type} {x : m α} {f : α → m β}, P x → (∀ a, P (f a)) → P (x >>= f))
    {α β : Type} {g : β → α → m β} (hg : ∀ b a, P (g b a)) (xs : List α) (b : β) : P (xs.foldlM g b) := by
  induction xs generalizing b with
  | nil => exact hpure b
  | cons a xs ih => exact hbind (hg b a) fun b' => ih b'

namespace Store

/-- Run a store operation from a store: its outcome, and the store it leaves. -/
def exec {α : Type} (m : StoreM α) (s : Store) : Except Failure α × Store := m.run.run s

section Exec

variable {α β : Type} (s : Store)

@[simp] theorem exec_pure (a : α) : exec (pure a : StoreM α) s = (.ok a, s) := rfl

/-- The second operation runs from the store the first leaves, unless the first failed. -/
theorem exec_bind (m : StoreM α) (f : α → StoreM β) :
    exec (m >>= f) s = match exec m s with
      | (.ok a, s') => exec (f a) s'
      | (.error e, s') => (.error e, s') := by
  show (ExceptT.bind m f).run.run s = _
  simp only [exec, ExceptT.bind, ExceptT.run, ExceptT.mk, StateT.run, bind, StateT.bind, ExceptT.bindCont]
  rcases m s with ⟨r, s'⟩
  cases r <;> rfl

theorem exec_bind_of_ok {m : StoreM α} {a : α} {s' : Store} (h : exec m s = (.ok a, s')) (f : α → StoreM β) :
    exec (m >>= f) s = exec (f a) s' := by
  rw [exec_bind, h]

theorem exec_bind_of_error {m : StoreM α} {e : Failure} {s' : Store} (h : exec m s = (.error e, s'))
    (f : α → StoreM β) : exec (m >>= f) s = (.error e, s') := by
  rw [exec_bind, h]

@[simp] theorem exec_get : exec (get : StoreM Store) s = (.ok s, s) := rfl

@[simp] theorem exec_set (s' : Store) : exec (set s' : StoreM PUnit) s = (.ok ⟨⟩, s') := rfl

@[simp] theorem exec_modify (f : Store → Store) : exec (modify f : StoreM PUnit) s = (.ok ⟨⟩, f s) := rfl

@[simp] theorem exec_throw (e : Failure) : exec (throw e : StoreM α) s = (.error e, s) := rfl

@[simp] theorem exec_fail (e : Error) : exec (fail e : StoreM α) s = (.error (.error e), s) := rfl

theorem exec_map (f : α → β) (m : StoreM α) : exec (f <$> m) s = ((exec m s).1.map f, (exec m s).2) := by
  show exec (m >>= fun a => pure (f a)) s = _
  rw [exec_bind]
  rcases exec m s with ⟨r, s'⟩
  cases r <;> rfl

@[simp] theorem exec_guardPanic_ok (a : α) : exec (guardPanic (.ok a)) s = (.ok a, s) := rfl

@[simp] theorem exec_guardPanic_error (p : Panic) : exec (guardPanic (.error p) : StoreM α) s = (.error (.panic p), s) :=
  rfl

@[simp] theorem exec_guardError_ok (a : α) : exec (guardError (.ok a)) s = (.ok a, s) := rfl

@[simp] theorem exec_guardError_error (e : Error) :
    exec (guardError (.error e) : StoreM α) s = (.error (.error e), s) := rfl

theorem exec_foldlM_cons (f : β → α → StoreM β) (b : β) (x : α) (xs : List α) :
    exec (xs.cons x |>.foldlM f b) s = exec (f b x >>= fun b' => xs.foldlM f b') s := by
  rw [List.foldlM_cons]

@[simp] theorem exec_foldlM_nil (f : β → α → StoreM β) (b : β) : exec (([] : List α).foldlM f b) s = (.ok b, s) :=
  rfl

end Exec

/-- After a program, reading leaves the store as the program left it. -/
theorem exec_bind_of_reads {α β : Type} {m : StoreM α} {f : α → StoreM β} (hf : ∀ a s, (exec (f a) s).2 = s)
    (s : Store) : (exec (m >>= f) s).2 = (exec m s).2 := by
  rw [exec_bind]
  rcases exec m s with ⟨r, s'⟩
  cases r with
  | ok a => exact hf a s'
  | error e => rfl

section Records

variable {s : Store} {id : TaskId}

theorem exec_top_of_find {t : Top} (h : Table.find? s.tops id = some t) : exec (top id) s = (.ok t, s) := by
  simp [top, exec_bind, h]

theorem exec_top_of_none (h : Table.find? s.tops id = none) :
    exec (top id) s = (.error (.error (.taskNotFound id)), s) := by
  simp [top, exec_bind, h]

theorem exec_parent_of_find {p : Parent} (h : Table.find? s.parents id = some p) :
    exec (parent id) s = (.ok p, s) := by
  simp [parent, exec_bind, h]

theorem exec_parent_of_none (h : Table.find? s.parents id = none) :
    exec (parent id) s = (.error (.error (.taskNotFound id)), s) := by
  simp [parent, exec_bind, h]

theorem exec_child_of_find {c : Child} (h : Table.find? s.children id = some c) : exec (child id) s = (.ok c, s) := by
  simp [child, exec_bind, h]

theorem exec_child_of_none (h : Table.find? s.children id = none) :
    exec (child id) s = (.error (.error (.taskNotFound id)), s) := by
  simp [child, exec_bind, h]

variable (s)

@[simp] theorem exec_putTop (t : Top) : exec (putTop t) s = (.ok (), { s with tops := Table.put s.tops t }) := rfl

@[simp] theorem exec_putParent (p : Parent) :
    exec (putParent p) s = (.ok (), { s with parents := Table.put s.parents p }) := rfl

@[simp] theorem exec_putChild (c : Child) :
    exec (putChild c) s = (.ok (), { s with children := Table.put s.children c }) := rfl

@[simp] theorem exec_freshId : exec freshId s = (.ok ⟨Uuid.spawned s.serial⟩, { s with serial := s.serial + 1 }) :=
  rfl

@[simp] theorem exec_mark (id : TaskId) :
    exec (mark id) s = (.ok (), { s with marks := if s.marks.contains id then s.marks else s.marks ++ [id] }) := rfl

variable {s}

/-- A parent the worker holds is read; any other fails before a write. -/
theorem exec_ownedParent_of_find {p : Parent} {w : WorkerId} (h : Table.find? s.parents id = some p) :
    exec (ownedParent id w) s = if p.worker = some w then (.ok p, s) else (.error (.error (.notOwner id)), s) := by
  simp only [ownedParent, exec_bind_of_ok s (exec_parent_of_find h)]
  split <;> simp

theorem exec_ownedParent_of_none {w : WorkerId} (h : Table.find? s.parents id = none) :
    exec (ownedParent id w) s = (.error (.error (.taskNotFound id)), s) := by
  simp only [ownedParent, exec_bind_of_error s (exec_parent_of_none h)]

theorem exec_ownedChild_of_find {c : Child} {w : WorkerId} (h : Table.find? s.children id = some c) :
    exec (ownedChild id w) s = if c.worker = some w then (.ok c, s) else (.error (.error (.notOwner id)), s) := by
  simp only [ownedChild, exec_bind_of_ok s (exec_child_of_find h)]
  split <;> simp

theorem exec_ownedChild_of_none {w : WorkerId} (h : Table.find? s.children id = none) :
    exec (ownedChild id w) s = (.error (.error (.taskNotFound id)), s) := by
  simp only [ownedChild, exec_bind_of_error s (exec_child_of_none h)]

end Records

end Store

end Conveyor
