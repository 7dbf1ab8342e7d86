namespace ClassScaffold.Text

def digitValue (c : Char) : Nat :=
  c.toNat - '0'.toNat

def decimalNumber (digits : List Char) : Nat :=
  digits.foldl (fun n c => 10 * n + digitValue c) 0

end ClassScaffold.Text
