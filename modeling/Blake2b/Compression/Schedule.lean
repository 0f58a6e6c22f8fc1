/-!
# Constants of the compression function

The initialisation vector, the number of rounds, and what each round does where.
A round consists of eight mixing steps, four for the columns of the work vector and
four for its diagonals, and takes the message words in an order of its own. There
are ten orders for twelve rounds, and the last two rounds use the first two orders
again.
-/

namespace Blake2b

/-- The eight words from which a hash starts. -/
abbrev ChainingValue := Vector UInt64 8

namespace Compression

def rounds : Nat := 12

def iv : ChainingValue :=
  #v[0x6a09e667f3bcc908, 0xbb67ae8584caa73b, 0x3c6ef372fe94f82b, 0xa54ff53a5f1d36f1,
     0x510e527fade682d1, 0x9b05688c2b3e6c1f, 0x1f83d9abfb41bd6b, 0x5be0cd19137e2179]

/-- An order of the sixteen message words. -/
abbrev Order := Vector (Fin 16) 16

def sigma : Vector Order 10 :=
  #v[#v[0, 1, 2, 3, 4, 5, 6, 7, 8, 9, 10, 11, 12, 13, 14, 15],
     #v[14, 10, 4, 8, 9, 15, 13, 6, 1, 12, 0, 2, 11, 7, 5, 3],
     #v[11, 8, 12, 0, 5, 2, 15, 13, 10, 14, 3, 6, 7, 1, 9, 4],
     #v[7, 9, 3, 1, 13, 12, 11, 14, 2, 6, 5, 10, 4, 0, 15, 8],
     #v[9, 0, 5, 7, 2, 4, 10, 15, 14, 1, 11, 12, 6, 8, 3, 13],
     #v[2, 12, 6, 10, 0, 11, 8, 3, 4, 13, 7, 5, 15, 14, 1, 9],
     #v[12, 5, 1, 15, 14, 13, 4, 10, 0, 7, 6, 3, 9, 2, 8, 11],
     #v[13, 11, 7, 14, 12, 1, 3, 9, 5, 0, 15, 4, 8, 6, 2, 10],
     #v[6, 15, 14, 9, 11, 3, 0, 8, 12, 2, 13, 7, 1, 4, 10, 5],
     #v[10, 2, 8, 4, 7, 6, 1, 5, 15, 11, 9, 14, 3, 12, 13, 0]]

def order (r : Nat) : Order := sigma.get (Fin.ofNat 10 r)

/-- The places of one mixing step: four in the work vector, and two in the order, from
which the message words are taken. -/
structure Step where
  a : Fin 16
  b : Fin 16
  c : Fin 16
  d : Fin 16
  x : Fin 16
  y : Fin 16

def columnSteps : List Step :=
  [⟨0, 4, 8, 12, 0, 1⟩, ⟨1, 5, 9, 13, 2, 3⟩, ⟨2, 6, 10, 14, 4, 5⟩, ⟨3, 7, 11, 15, 6, 7⟩]

def diagonalSteps : List Step :=
  [⟨0, 5, 10, 15, 8, 9⟩, ⟨1, 6, 11, 12, 10, 11⟩, ⟨2, 7, 8, 13, 12, 13⟩, ⟨3, 4, 9, 14, 14, 15⟩]

end Compression

end Blake2b
