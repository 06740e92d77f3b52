import ApiScaffold.Text.Hex

namespace ApiScaffold.Utf8

inductive Reason where
  | start
  | continuation
  | truncated
  deriving DecidableEq

structure Fault where
  reason : Reason
  offset : Nat
  count : Nat
  first : UInt8
  deriving DecidableEq

def isTail (b : UInt8) : Bool := 0x80 ≤ b && b < 0xC0

def isSecond (a b : UInt8) : Bool :=
  isTail b && !(a == 0xE0 && b < 0xA0) && !(a == 0xED && 0xA0 ≤ b) && !(a == 0xF0 && b < 0x90)
    && !(a == 0xF4 && 0x90 ≤ b)

def lengthOf (a : UInt8) : Nat :=
  if a < 0x80 then 1 else if a < 0xC2 then 0 else if a < 0xE0 then 2 else if a < 0xF0 then 3
  else if a < 0xF5 then 4 else 0

def fault? (a : UInt8) (tail : List UInt8) : Option (Reason × Nat) :=
  let n := lengthOf a
  if n = 0 then some (.start, 1)
  else if n = 1 then none
  else
    match tail with
    | [] => some (.truncated, 1)
    | b :: more =>
      if !isSecond a b then some (.continuation, 1)
      else
        let good := (more.take (n - 2)).takeWhile isTail
        if good.length = n - 2 then none
        else if good.length = more.length then some (.truncated, good.length + 2)
        else some (.continuation, good.length + 2)

def firstFault (offset : Nat) (s : List UInt8) : Option Fault :=
  match s with
  | [] => none
  | a :: tail =>
    match fault? a tail with
    | some (reason, count) => some ⟨reason, offset, count, a⟩
    | none => firstFault (offset + lengthOf a) (tail.drop (lengthOf a - 1))
termination_by s.length
decreasing_by simp only [List.length_cons, List.length_drop]; omega

def decode (bytes : ByteArray) : Except Fault String :=
  match String.fromUTF8? bytes with
  | some s => .ok s
  | none => .error ((firstFault 0 bytes.toList).getD ⟨.truncated, bytes.size, 0, 0⟩)

def Reason.message : Reason → String
  | .start => "invalid start byte"
  | .continuation => "invalid continuation byte"
  | .truncated => "unexpected end of data"

def Fault.message (f : Fault) : String :=
  let place :=
    if f.count = 1 then
      "byte 0x" ++ String.ofList (Text.hex 2 f.first.toNat) ++ " in position " ++ toString f.offset
    else "bytes in position " ++ toString f.offset ++ "-" ++ toString (f.offset + f.count - 1)
  "'utf-8' codec can't decode " ++ place ++ ": " ++ f.reason.message

def unifyLines : List Char → List Char
  | '\r' :: '\n' :: rest => '\n' :: unifyLines rest
  | '\r' :: rest => '\n' :: unifyLines rest
  | c :: rest => c :: unifyLines rest
  | [] => []

end ApiScaffold.Utf8
