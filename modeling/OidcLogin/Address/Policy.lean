import OidcLogin.Address.Basic

namespace OidcLogin

namespace Address

-- The addresses whose first `size` bits are those of `first`, of 32 or 128 bits.
structure Block where
  first : Nat
  size : Nat

def Block.contains (width : Nat) (b : Block) (value : Nat) : Bool :=
  value / Nat.pow 2 (width - b.size) = b.first / Nat.pow 2 (width - b.size)

def inSome (width : Nat) (blocks : List Block) (value : Nat) : Bool :=
  blocks.any fun b => b.contains width value

def v4Block (a b c d size : Nat) : Block := ⟨((a * 256 + b) * 256 + c) * 256 + d, size⟩

-- A block of version 6 given by the first three groups, and the last one.
def v6Block (a b c last size : Nat) : Block :=
  ⟨((a * 65536 + b) * 65536 + c) * Nat.pow 65536 5 + last, size⟩

def privateV4 : List Block :=
  [v4Block 0 0 0 0 8, v4Block 10 0 0 0 8, v4Block 127 0 0 0 8, v4Block 169 254 0 0 16,
   v4Block 172 16 0 0 12, v4Block 192 0 0 0 24, v4Block 192 0 2 0 24, v4Block 192 168 0 0 16,
   v4Block 198 18 0 0 15, v4Block 198 51 100 0 24, v4Block 203 0 113 0 24, v4Block 240 0 0 0 4]

-- Two anycast addresses inside a private block are global.
def globalV4 : List Block := [v4Block 192 0 0 9 32, v4Block 192 0 0 10 32]

def privateV6 : List Block :=
  [v6Block 0 0 0 1 128, v6Block 0 0 0 0 128, ⟨0xFFFF * Nat.pow 65536 2, 96⟩, v6Block 0x64 0xFF9B 1 0 48,
   v6Block 0x100 0 0 0 64, v6Block 0x2001 0 0 0 23, v6Block 0x2001 0xDB8 0 0 32,
   v6Block 0x2002 0 0 0 16, v6Block 0xFC00 0 0 0 7, v6Block 0xFE80 0 0 0 10]

def globalV6 : List Block :=
  [v6Block 0x2001 1 0 1 128, v6Block 0x2001 1 0 2 128, v6Block 0x2001 3 0 0 32,
   v6Block 0x2001 4 0x112 0 48, v6Block 0x2001 0x20 0 0 28, v6Block 0x2001 0x30 0 0 28]

def reservedV6 : List Block :=
  [v6Block 0 0 0 0 8, v6Block 0x100 0 0 0 8, v6Block 0x200 0 0 0 7, v6Block 0x400 0 0 0 6,
   v6Block 0x800 0 0 0 5, v6Block 0x1000 0 0 0 4, v6Block 0x4000 0 0 0 3, v6Block 0x6000 0 0 0 3,
   v6Block 0x8000 0 0 0 3, v6Block 0xA000 0 0 0 3, v6Block 0xC000 0 0 0 3, v6Block 0xE000 0 0 0 4,
   v6Block 0xF000 0 0 0 5, v6Block 0xF800 0 0 0 6, v6Block 0xFE00 0 0 0 9]

def isPrivate : Address → Bool
  | .v4 value => inSome 32 privateV4 value && !inSome 32 globalV4 value
  | .v6 value _ => inSome 128 privateV6 value && !inSome 128 globalV6 value

def isLoopback : Address → Bool
  | .v4 value => (v4Block 127 0 0 0 8).contains 32 value
  | .v6 value _ => value = 1

def isLinkLocal : Address → Bool
  | .v4 value => (v4Block 169 254 0 0 16).contains 32 value
  | .v6 value _ => (v6Block 0xFE80 0 0 0 10).contains 128 value

def isReserved : Address → Bool
  | .v4 value => (v4Block 240 0 0 0 4).contains 32 value
  | .v6 value _ => inSome 128 reservedV6 value

def isMulticast : Address → Bool
  | .v4 value => (v4Block 224 0 0 0 4).contains 32 value
  | .v6 value _ => (v6Block 0xFF00 0 0 0 8).contains 128 value

-- What is known of the addresses that have a special purpose.  It changes when the registries do.
structure Registry where
  isPrivate : Address → Bool
  isLoopback : Address → Bool
  isLinkLocal : Address → Bool
  isReserved : Address → Bool
  isMulticast : Address → Bool

-- An address of version 6 that stands for one of version 4 is in a private block here, whatever that one is.
def Registry.standard : Registry where
  isPrivate := Address.isPrivate
  isLoopback := Address.isLoopback
  isLinkLocal := Address.isLinkLocal
  isReserved := Address.isReserved
  isMulticast := Address.isMulticast

def Registry.blocks (r : Registry) (a : Address) : Bool :=
  r.isPrivate a || r.isLoopback a || r.isLinkLocal a || r.isReserved a || r.isMulticast a

end Address

end OidcLogin
