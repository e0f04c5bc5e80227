/-!
# Powers of two and ten

The two powers in which binary and decimal numbers are scaled.
-/
namespace RecordGateway

def pow2 (n : Nat) : Nat := Nat.pow 2 n

def pow10 (n : Nat) : Nat := Nat.pow 10 n

end RecordGateway
