namespace ApiScaffold

def digitsValue (s : List Char) : Nat := s.foldl (fun n c => 10 * n + (c.toNat - '0'.toNat)) 0

def maxDigits : Nat := 4300

def noTextMessage : String :=
  "Exceeds the limit (" ++ toString maxDigits
    ++ " digits) for integer string conversion; use sys.set_int_max_str_digits() to increase the limit"

def tooManyDigitsMessage (count : Nat) : String :=
  "Exceeds the limit (" ++ toString maxDigits ++ " digits) for integer string conversion: value has "
    ++ toString count ++ " digits; use sys.set_int_max_str_digits() to increase the limit"

end ApiScaffold
