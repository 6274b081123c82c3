set_option autoImplicit false

namespace BusLink.Text.Base64

def letter (value : Nat) : Char :=
  if value < 26 then Char.ofNat (65 + value)
  else if value < 52 then Char.ofNat (71 + value)
  else if value < 62 then Char.ofNat (value - 4)
  else if value = 62 then '+'
  else '/'

/-- Three bytes are written as four letters; one or two bytes left over are filled up with zero bits
and the group with equals signs. -/
def encode : List UInt8 → List Char
  | [] => []
  | [first] =>
    let group := first.toNat * 65536
    [letter (group / 262144), letter (group / 4096 % 64), '=', '=']
  | [first, second] =>
    let group := first.toNat * 65536 + second.toNat * 256
    [letter (group / 262144), letter (group / 4096 % 64), letter (group / 64 % 64), '=']
  | first :: second :: third :: rest =>
    let group := first.toNat * 65536 + second.toNat * 256 + third.toNat
    letter (group / 262144) :: letter (group / 4096 % 64) :: letter (group / 64 % 64) ::
      letter (group % 64) :: encode rest

end BusLink.Text.Base64
