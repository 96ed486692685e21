/-!
# The text font

A fixed font of six by ten pixels for the printable ASCII characters, used for all text on the
canvas.

## Main definitions

* `Font.glyphs` — the bitmaps.
* `Font.inked` — whether a pixel of a character's cell is set.

## Implementation notes

A glyph is one number of ten bytes, the top row first. In a row, bit five is the leftmost of the six
pixels. Characters outside the printable range are drawn with the glyph of the question mark, so
every text has a picture.
-/

namespace LiveSketch
namespace Font

/-- Width of a character cell. -/
def cellWidth : Nat := 6

/-- Height of a character cell, and the distance between two lines of text. -/
def cellHeight : Nat := 10

/-- The glyphs of the characters from the space to the tilde, in order. -/
def glyphs : Array Nat :=
  #[
    0x0, 0x80808080800080000, 0x141414000000000000,
    0x14143e143e14140000, 0x81c281c0a1c080000, 0x122a1408142a240000,
    0x102828102a241a0000, 0x80808000000000000, 0x40810101008040000,
    0x100804040408100000, 0x22143e1422000000, 0x8083e0808000000,
    0xc081000, 0x3e0000000000, 0x81c0800,
    0x20204081020200000, 0x81422222214080000, 0x818280808083e0000,
    0x1c22020c10203e0000, 0x3e02040c02221c0000, 0x40c14243e04040000,
    0x3e202c3202221c0000, 0xc10202c32221c0000, 0x3e0204040810100000,
    0x1c22221c22221c0000, 0x1c22261a0204180000, 0x81c0800081c0800,
    0x81c08000c081000, 0x20408100804020000, 0x3e003e00000000,
    0x100804020408100000, 0x1c2204080800080000, 0x1c22262a2c201c0000,
    0x81422223e22220000, 0x3c12121c12123c0000, 0x1c22202020221c0000,
    0x3c12121212123c0000, 0x3e20203c20203e0000, 0x3e20203c2020200000,
    0x1c22202026221c0000, 0x2222223e2222220000, 0x1c08080808081c0000,
    0xe0404040424180000, 0x222428302824220000, 0x2020202020203e0000,
    0x2222362a2222220000, 0x2222322a2622220000, 0x1c22222222221c0000,
    0x3c22223c2020200000, 0x1c222222222a1c0200, 0x3c22223c2824220000,
    0x1c22201c02221c0000, 0x3e0808080808080000, 0x2222222222221c0000,
    0x222222141414080000, 0x2222222a2a36220000, 0x222214081422220000,
    0x222214080808080000, 0x3e02040810203e0000, 0x1c10101010101c0000,
    0x202010080402020000, 0x1c04040404041c0000, 0x81422000000000000,
    0x3e00, 0x8040000000000000000, 0x1c021e221e0000,
    0x20202c3222322c0000, 0x1c2220221c0000, 0x2021a2622261a0000,
    0x1c223e201c0000, 0xc12103c1010100000, 0x1e22221e02221c,
    0x20202c322222220000, 0x800180808081c0000, 0x2000602020212120c,
    0x202022243824220000, 0x1808080808081c0000, 0x342a2a2a220000,
    0x2c322222220000, 0x1c2222221c0000, 0x2c3222322c2020,
    0x1a2622261a0202, 0x2c322020200000, 0x1c201c023c0000,
    0x10103c1010120c0000, 0x222222261a0000, 0x22221414080000,
    0x22222a2a140000, 0x22140814220000, 0x2222261a02221c,
    0x3e0408103e0000, 0x60804180408060000, 0x80808080808080000,
    0x180408060804180000, 0x122a24000000000000
  ]

/-- The glyph drawn for a character: its own, or the question mark's when it has none. -/
def glyph (c : Char) : Nat :=
  if 32 ≤ c.toNat ∧ c.toNat < 127 then glyphs.getD (c.toNat - 32) 0 else glyphs.getD 31 0

/-- Whether the pixel at column `col` and row `row` of the cell of `c` is set. -/
def inked (c : Char) (col row : Nat) : Bool :=
  decide (col < cellWidth ∧ row < cellHeight) && (glyph c).testBit (8 * (9 - row) + (5 - col))

end Font

end LiveSketch
