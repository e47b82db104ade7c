/-!
# Diagnostics records

While the library reads settings, parses verbosity groups or formats messages it notes what a user
may want to know. A computation that does so is `Noted`: its value together with the records, oldest
first. Whether a record is shown is decided later, and nothing else depends on it.
-/

namespace MarkupLog

structure Record where
  level : Int
  logger : String
  message : String
  deriving Repr, DecidableEq

structure Noted (α : Type) where
  value : α
  records : List Record
  deriving Repr, DecidableEq

namespace Noted

def note (r : Record) : Noted Unit :=
  ⟨(), [r]⟩

instance : Monad Noted where
  pure a := ⟨a, []⟩
  bind x f := ⟨(f x.value).value, x.records ++ (f x.value).records⟩

@[simp] theorem value_pure {α : Type} (a : α) : (pure a : Noted α).value = a := rfl

@[simp] theorem records_pure {α : Type} (a : α) : (pure a : Noted α).records = [] := rfl

@[simp] theorem value_bind {α β : Type} (x : Noted α) (f : α → Noted β) :
    (x >>= f).value = (f x.value).value := rfl

@[simp] theorem records_bind {α β : Type} (x : Noted α) (f : α → Noted β) :
    (x >>= f).records = x.records ++ (f x.value).records := rfl

instance : LawfulMonad Noted := LawfulMonad.mk' Noted
  (by intro α x; cases x; simp [Functor.map])
  (by intro α β a f; simp [bind, pure])
  (by intro α β γ x f g; simp [bind, List.append_assoc])

end Noted

end MarkupLog
