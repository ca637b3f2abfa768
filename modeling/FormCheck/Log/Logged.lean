import FormCheck.Log.Line

namespace FormCheck.Log

/-- A result and the entries that were logged on the way to it, in order. -/
structure Logged (α : Type) where
  value : α
  entries : List Entry

namespace Logged

def silent (value : α) : Logged α := ⟨value, []⟩

/-- One step after another. The second goes on from the result of the first. -/
def andThen (x : Logged α) (f : α → Logged β) : Logged β :=
  ⟨(f x.value).value, x.entries ++ (f x.value).entries⟩

instance : Monad Logged where
  pure := silent
  bind := andThen

@[simp] theorem value_pure (a : α) : (pure a : Logged α).value = a := rfl

@[simp] theorem entries_pure (a : α) : (pure a : Logged α).entries = [] := rfl

@[simp] theorem value_bind (x : Logged α) (f : α → Logged β) :
    (x >>= f).value = (f x.value).value := rfl

@[simp] theorem entries_bind (x : Logged α) (f : α → Logged β) :
    (x >>= f).entries = x.entries ++ (f x.value).entries := rfl

instance : LawfulMonad Logged :=
  LawfulMonad.mk' Logged
    (fun x => congrArg (Logged.mk x.value) (List.append_nil x.entries))
    (fun a f => rfl)
    (fun x f g => congrArg (Logged.mk _)
      (List.append_assoc x.entries (f x.value).entries (g (f x.value).value).entries))

@[simp] theorem value_map (f : α → β) (x : Logged α) : (f <$> x).value = f x.value := rfl

@[simp] theorem entries_map (f : α → β) (x : Logged α) : (f <$> x).entries = x.entries :=
  List.append_nil x.entries

def log (level : Level) (target message : String) : Logged Unit :=
  ⟨(), [⟨level, target, message⟩]⟩

/-- The same step for each of several things, in order, with all its results put together. -/
def gather (f : α → Logged (List β)) (xs : List α) : Logged (List β) :=
  ⟨xs.flatMap fun x => (f x).value, xs.flatMap fun x => (f x).entries⟩

@[simp] theorem value_gather (f : α → Logged (List β)) (xs : List α) :
    (gather f xs).value = xs.flatMap fun x => (f x).value := rfl

@[simp] theorem entries_gather (f : α → Logged (List β)) (xs : List α) :
    (gather f xs).entries = xs.flatMap fun x => (f x).entries := rfl

end Logged

end FormCheck.Log
