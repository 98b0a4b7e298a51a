/-!
# Random identifiers

Identifiers for executions that nobody has named: 128 bits in hexadecimal
digits, in five groups, marked as random.
-/

namespace WorkflowEngine
namespace Identifier

/-- The number of bytes of an identifier. -/
def byteCount : Nat := 16

/-- The bytes with the marks of a random identifier in place of six bits. -/
def marked (bytes : List UInt8) : List UInt8 :=
  bytes.mapIdx fun index byte =>
    if index = 6 then (byte &&& 0x0F) ||| 0x40
    else if index = 8 then (byte &&& 0x3F) ||| 0x80
    else byte

/-- The two digits of a byte. -/
def digits (byte : UInt8) : List Char :=
  [Nat.digitChar (byte.toNat / 16), Nat.digitChar (byte.toNat % 16)]

/-- The identifier made of random bytes. -/
def ofBytes (bytes : List UInt8) : String :=
  let groups := (marked bytes).mapIdx fun index byte =>
    if [4, 6, 8, 10].contains index then '-' :: digits byte else digits byte
  String.ofList groups.flatten

end Identifier
end WorkflowEngine
