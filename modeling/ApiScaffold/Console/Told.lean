import ApiScaffold.Console.Message

namespace ApiScaffold.Console

structure Told (ε α : Type) where
  text : String
  result : Except ε α

namespace Told

variable {ε ε' α β : Type}

def andThen (t : Told ε α) (next : α → Told ε β) : Told ε β :=
  match t.result with
  | .ok a => ⟨t.text ++ (next a).text, (next a).result⟩
  | .error fault => ⟨t.text, .error fault⟩

instance : Monad (Told ε) where
  pure a := ⟨"", .ok a⟩
  bind := andThen

def ofResult (result : Except ε α) : Told ε α := ⟨"", result⟩

def mapFault (f : ε → ε') (t : Told ε α) : Told ε' α := ⟨t.text, t.result.mapError f⟩

def say [Painter] (columns : Nat) (messages : List Message) : Told MarkupFault Unit :=
  let (text, fault) := Message.renderAll columns messages
  ⟨text, fault.elim (.ok ()) .error⟩

@[simp] theorem bind_ofResult_ok (a : α) (next : α → Told ε β) : ofResult (.ok a) >>= next = next a := by
  simp [ofResult, bind, andThen]

end Told

end ApiScaffold.Console
