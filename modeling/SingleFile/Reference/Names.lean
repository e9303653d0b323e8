import SingleFile.Text

/-!
# Named character references

The named character references of HTML, with the characters they stand
for. A name is kept without its `&` and with its final `;` where it has
one; some names are listed in both spellings. The names are grouped by
their first letter.
-/

namespace SingleFile

namespace Reference

/-- Names that begin with `A`. -/
private def upperA : List (Text × Text) :=
  [(['A', 'E', 'l', 'i', 'g'], ['\u00c6']), (['A', 'E', 'l', 'i', 'g', ';'], ['\u00c6']),
   (['A', 'M', 'P'], ['\u0026']), (['A', 'M', 'P', ';'], ['\u0026']),
   (['A', 'a', 'c', 'u', 't', 'e'], ['\u00c1']), (['A', 'a', 'c', 'u', 't', 'e', ';'], ['\u00c1']),
   (['A', 'b', 'r', 'e', 'v', 'e', ';'], ['\u0102']), (['A', 'c', 'i', 'r', 'c'], ['\u00c2']),
   (['A', 'c', 'i', 'r', 'c', ';'], ['\u00c2']), (['A', 'c', 'y', ';'], ['\u0410']),
   (['A', 'f', 'r', ';'], [Char.ofNat 0x1d504]), (['A', 'g', 'r', 'a', 'v', 'e'], ['\u00c0']),
   (['A', 'g', 'r', 'a', 'v', 'e', ';'], ['\u00c0']), (['A', 'l', 'p', 'h', 'a', ';'], ['\u0391']),
   (['A', 'm', 'a', 'c', 'r', ';'], ['\u0100']), (['A', 'n', 'd', ';'], ['\u2a53']),
   (['A', 'o', 'g', 'o', 'n', ';'], ['\u0104']), (['A', 'o', 'p', 'f', ';'], [Char.ofNat 0x1d538]),
   (['A', 'p', 'p', 'l', 'y', 'F', 'u', 'n', 'c', 't', 'i', 'o', 'n', ';'], ['\u2061']),
   (['A', 'r', 'i', 'n', 'g'], ['\u00c5']), (['A', 'r', 'i', 'n', 'g', ';'], ['\u00c5']),
   (['A', 's', 'c', 'r', ';'], [Char.ofNat 0x1d49c]),
   (['A', 's', 's', 'i', 'g', 'n', ';'], ['\u2254']), (['A', 't', 'i', 'l', 'd', 'e'], ['\u00c3']),
   (['A', 't', 'i', 'l', 'd', 'e', ';'], ['\u00c3']), (['A', 'u', 'm', 'l'], ['\u00c4']),
   (['A', 'u', 'm', 'l', ';'], ['\u00c4'])]

/-- Names that begin with `B`. -/
private def upperB : List (Text × Text) :=
  [(['B', 'a', 'c', 'k', 's', 'l', 'a', 's', 'h', ';'], ['\u2216']),
   (['B', 'a', 'r', 'v', ';'], ['\u2ae7']), (['B', 'a', 'r', 'w', 'e', 'd', ';'], ['\u2306']),
   (['B', 'c', 'y', ';'], ['\u0411']), (['B', 'e', 'c', 'a', 'u', 's', 'e', ';'], ['\u2235']),
   (['B', 'e', 'r', 'n', 'o', 'u', 'l', 'l', 'i', 's', ';'], ['\u212c']),
   (['B', 'e', 't', 'a', ';'], ['\u0392']), (['B', 'f', 'r', ';'], [Char.ofNat 0x1d505]),
   (['B', 'o', 'p', 'f', ';'], [Char.ofNat 0x1d539]), (['B', 'r', 'e', 'v', 'e', ';'], ['\u02d8']),
   (['B', 's', 'c', 'r', ';'], ['\u212c']), (['B', 'u', 'm', 'p', 'e', 'q', ';'], ['\u224e'])]

/-- Names that begin with `C`. -/
private def upperC : List (Text × Text) :=
  [(['C', 'H', 'c', 'y', ';'], ['\u0427']), (['C', 'O', 'P', 'Y'], ['\u00a9']),
   (['C', 'O', 'P', 'Y', ';'], ['\u00a9']), (['C', 'a', 'c', 'u', 't', 'e', ';'], ['\u0106']),
   (['C', 'a', 'p', ';'], ['\u22d2']),
   (['C', 'a', 'p', 'i', 't', 'a', 'l', 'D', 'i', 'f', 'f', 'e', 'r', 'e', 'n', 't', 'i', 'a', 'l', 'D', ';'], ['\u2145']),
   (['C', 'a', 'y', 'l', 'e', 'y', 's', ';'], ['\u212d']),
   (['C', 'c', 'a', 'r', 'o', 'n', ';'], ['\u010c']), (['C', 'c', 'e', 'd', 'i', 'l'], ['\u00c7']),
   (['C', 'c', 'e', 'd', 'i', 'l', ';'], ['\u00c7']), (['C', 'c', 'i', 'r', 'c', ';'], ['\u0108']),
   (['C', 'c', 'o', 'n', 'i', 'n', 't', ';'], ['\u2230']), (['C', 'd', 'o', 't', ';'], ['\u010a']),
   (['C', 'e', 'd', 'i', 'l', 'l', 'a', ';'], ['\u00b8']),
   (['C', 'e', 'n', 't', 'e', 'r', 'D', 'o', 't', ';'], ['\u00b7']),
   (['C', 'f', 'r', ';'], ['\u212d']), (['C', 'h', 'i', ';'], ['\u03a7']),
   (['C', 'i', 'r', 'c', 'l', 'e', 'D', 'o', 't', ';'], ['\u2299']),
   (['C', 'i', 'r', 'c', 'l', 'e', 'M', 'i', 'n', 'u', 's', ';'], ['\u2296']),
   (['C', 'i', 'r', 'c', 'l', 'e', 'P', 'l', 'u', 's', ';'], ['\u2295']),
   (['C', 'i', 'r', 'c', 'l', 'e', 'T', 'i', 'm', 'e', 's', ';'], ['\u2297']),
   (['C', 'l', 'o', 'c', 'k', 'w', 'i', 's', 'e', 'C', 'o', 'n', 't', 'o', 'u', 'r', 'I', 'n', 't', 'e', 'g', 'r', 'a', 'l', ';'], ['\u2232']),
   (['C', 'l', 'o', 's', 'e', 'C', 'u', 'r', 'l', 'y', 'D', 'o', 'u', 'b', 'l', 'e', 'Q', 'u', 'o', 't', 'e', ';'], ['\u201d']),
   (['C', 'l', 'o', 's', 'e', 'C', 'u', 'r', 'l', 'y', 'Q', 'u', 'o', 't', 'e', ';'], ['\u2019']),
   (['C', 'o', 'l', 'o', 'n', ';'], ['\u2237']), (['C', 'o', 'l', 'o', 'n', 'e', ';'], ['\u2a74']),
   (['C', 'o', 'n', 'g', 'r', 'u', 'e', 'n', 't', ';'], ['\u2261']),
   (['C', 'o', 'n', 'i', 'n', 't', ';'], ['\u222f']),
   (['C', 'o', 'n', 't', 'o', 'u', 'r', 'I', 'n', 't', 'e', 'g', 'r', 'a', 'l', ';'], ['\u222e']),
   (['C', 'o', 'p', 'f', ';'], ['\u2102']),
   (['C', 'o', 'p', 'r', 'o', 'd', 'u', 'c', 't', ';'], ['\u2210']),
   (['C', 'o', 'u', 'n', 't', 'e', 'r', 'C', 'l', 'o', 'c', 'k', 'w', 'i', 's', 'e', 'C', 'o', 'n', 't', 'o', 'u', 'r', 'I', 'n', 't', 'e', 'g', 'r', 'a', 'l', ';'], ['\u2233']),
   (['C', 'r', 'o', 's', 's', ';'], ['\u2a2f']), (['C', 's', 'c', 'r', ';'], [Char.ofNat 0x1d49e]),
   (['C', 'u', 'p', ';'], ['\u22d3']), (['C', 'u', 'p', 'C', 'a', 'p', ';'], ['\u224d'])]

/-- Names that begin with `D`. -/
private def upperD : List (Text × Text) :=
  [(['D', 'D', ';'], ['\u2145']), (['D', 'D', 'o', 't', 'r', 'a', 'h', 'd', ';'], ['\u2911']),
   (['D', 'J', 'c', 'y', ';'], ['\u0402']), (['D', 'S', 'c', 'y', ';'], ['\u0405']),
   (['D', 'Z', 'c', 'y', ';'], ['\u040f']), (['D', 'a', 'g', 'g', 'e', 'r', ';'], ['\u2021']),
   (['D', 'a', 'r', 'r', ';'], ['\u21a1']), (['D', 'a', 's', 'h', 'v', ';'], ['\u2ae4']),
   (['D', 'c', 'a', 'r', 'o', 'n', ';'], ['\u010e']), (['D', 'c', 'y', ';'], ['\u0414']),
   (['D', 'e', 'l', ';'], ['\u2207']), (['D', 'e', 'l', 't', 'a', ';'], ['\u0394']),
   (['D', 'f', 'r', ';'], [Char.ofNat 0x1d507]),
   (['D', 'i', 'a', 'c', 'r', 'i', 't', 'i', 'c', 'a', 'l', 'A', 'c', 'u', 't', 'e', ';'], ['\u00b4']),
   (['D', 'i', 'a', 'c', 'r', 'i', 't', 'i', 'c', 'a', 'l', 'D', 'o', 't', ';'], ['\u02d9']),
   (['D', 'i', 'a', 'c', 'r', 'i', 't', 'i', 'c', 'a', 'l', 'D', 'o', 'u', 'b', 'l', 'e', 'A', 'c', 'u', 't', 'e', ';'], ['\u02dd']),
   (['D', 'i', 'a', 'c', 'r', 'i', 't', 'i', 'c', 'a', 'l', 'G', 'r', 'a', 'v', 'e', ';'], ['\u0060']),
   (['D', 'i', 'a', 'c', 'r', 'i', 't', 'i', 'c', 'a', 'l', 'T', 'i', 'l', 'd', 'e', ';'], ['\u02dc']),
   (['D', 'i', 'a', 'm', 'o', 'n', 'd', ';'], ['\u22c4']),
   (['D', 'i', 'f', 'f', 'e', 'r', 'e', 'n', 't', 'i', 'a', 'l', 'D', ';'], ['\u2146']),
   (['D', 'o', 'p', 'f', ';'], [Char.ofNat 0x1d53b]), (['D', 'o', 't', ';'], ['\u00a8']),
   (['D', 'o', 't', 'D', 'o', 't', ';'], ['\u20dc']),
   (['D', 'o', 't', 'E', 'q', 'u', 'a', 'l', ';'], ['\u2250']),
   (['D', 'o', 'u', 'b', 'l', 'e', 'C', 'o', 'n', 't', 'o', 'u', 'r', 'I', 'n', 't', 'e', 'g', 'r', 'a', 'l', ';'], ['\u222f']),
   (['D', 'o', 'u', 'b', 'l', 'e', 'D', 'o', 't', ';'], ['\u00a8']),
   (['D', 'o', 'u', 'b', 'l', 'e', 'D', 'o', 'w', 'n', 'A', 'r', 'r', 'o', 'w', ';'], ['\u21d3']),
   (['D', 'o', 'u', 'b', 'l', 'e', 'L', 'e', 'f', 't', 'A', 'r', 'r', 'o', 'w', ';'], ['\u21d0']),
   (['D', 'o', 'u', 'b', 'l', 'e', 'L', 'e', 'f', 't', 'R', 'i', 'g', 'h', 't', 'A', 'r', 'r', 'o', 'w', ';'], ['\u21d4']),
   (['D', 'o', 'u', 'b', 'l', 'e', 'L', 'e', 'f', 't', 'T', 'e', 'e', ';'], ['\u2ae4']),
   (['D', 'o', 'u', 'b', 'l', 'e', 'L', 'o', 'n', 'g', 'L', 'e', 'f', 't', 'A', 'r', 'r', 'o', 'w', ';'], ['\u27f8']),
   (['D', 'o', 'u', 'b', 'l', 'e', 'L', 'o', 'n', 'g', 'L', 'e', 'f', 't', 'R', 'i', 'g', 'h', 't', 'A', 'r', 'r', 'o', 'w', ';'], ['\u27fa']),
   (['D', 'o', 'u', 'b', 'l', 'e', 'L', 'o', 'n', 'g', 'R', 'i', 'g', 'h', 't', 'A', 'r', 'r', 'o', 'w', ';'], ['\u27f9']),
   (['D', 'o', 'u', 'b', 'l', 'e', 'R', 'i', 'g', 'h', 't', 'A', 'r', 'r', 'o', 'w', ';'], ['\u21d2']),
   (['D', 'o', 'u', 'b', 'l', 'e', 'R', 'i', 'g', 'h', 't', 'T', 'e', 'e', ';'], ['\u22a8']),
   (['D', 'o', 'u', 'b', 'l', 'e', 'U', 'p', 'A', 'r', 'r', 'o', 'w', ';'], ['\u21d1']),
   (['D', 'o', 'u', 'b', 'l', 'e', 'U', 'p', 'D', 'o', 'w', 'n', 'A', 'r', 'r', 'o', 'w', ';'], ['\u21d5']),
   (['D', 'o', 'u', 'b', 'l', 'e', 'V', 'e', 'r', 't', 'i', 'c', 'a', 'l', 'B', 'a', 'r', ';'], ['\u2225']),
   (['D', 'o', 'w', 'n', 'A', 'r', 'r', 'o', 'w', ';'], ['\u2193']),
   (['D', 'o', 'w', 'n', 'A', 'r', 'r', 'o', 'w', 'B', 'a', 'r', ';'], ['\u2913']),
   (['D', 'o', 'w', 'n', 'A', 'r', 'r', 'o', 'w', 'U', 'p', 'A', 'r', 'r', 'o', 'w', ';'], ['\u21f5']),
   (['D', 'o', 'w', 'n', 'B', 'r', 'e', 'v', 'e', ';'], ['\u0311']),
   (['D', 'o', 'w', 'n', 'L', 'e', 'f', 't', 'R', 'i', 'g', 'h', 't', 'V', 'e', 'c', 't', 'o', 'r', ';'], ['\u2950']),
   (['D', 'o', 'w', 'n', 'L', 'e', 'f', 't', 'T', 'e', 'e', 'V', 'e', 'c', 't', 'o', 'r', ';'], ['\u295e']),
   (['D', 'o', 'w', 'n', 'L', 'e', 'f', 't', 'V', 'e', 'c', 't', 'o', 'r', ';'], ['\u21bd']),
   (['D', 'o', 'w', 'n', 'L', 'e', 'f', 't', 'V', 'e', 'c', 't', 'o', 'r', 'B', 'a', 'r', ';'], ['\u2956']),
   (['D', 'o', 'w', 'n', 'R', 'i', 'g', 'h', 't', 'T', 'e', 'e', 'V', 'e', 'c', 't', 'o', 'r', ';'], ['\u295f']),
   (['D', 'o', 'w', 'n', 'R', 'i', 'g', 'h', 't', 'V', 'e', 'c', 't', 'o', 'r', ';'], ['\u21c1']),
   (['D', 'o', 'w', 'n', 'R', 'i', 'g', 'h', 't', 'V', 'e', 'c', 't', 'o', 'r', 'B', 'a', 'r', ';'], ['\u2957']),
   (['D', 'o', 'w', 'n', 'T', 'e', 'e', ';'], ['\u22a4']),
   (['D', 'o', 'w', 'n', 'T', 'e', 'e', 'A', 'r', 'r', 'o', 'w', ';'], ['\u21a7']),
   (['D', 'o', 'w', 'n', 'a', 'r', 'r', 'o', 'w', ';'], ['\u21d3']),
   (['D', 's', 'c', 'r', ';'], [Char.ofNat 0x1d49f]),
   (['D', 's', 't', 'r', 'o', 'k', ';'], ['\u0110'])]

/-- Names that begin with `E`. -/
private def upperE : List (Text × Text) :=
  [(['E', 'N', 'G', ';'], ['\u014a']), (['E', 'T', 'H'], ['\u00d0']),
   (['E', 'T', 'H', ';'], ['\u00d0']), (['E', 'a', 'c', 'u', 't', 'e'], ['\u00c9']),
   (['E', 'a', 'c', 'u', 't', 'e', ';'], ['\u00c9']),
   (['E', 'c', 'a', 'r', 'o', 'n', ';'], ['\u011a']), (['E', 'c', 'i', 'r', 'c'], ['\u00ca']),
   (['E', 'c', 'i', 'r', 'c', ';'], ['\u00ca']), (['E', 'c', 'y', ';'], ['\u042d']),
   (['E', 'd', 'o', 't', ';'], ['\u0116']), (['E', 'f', 'r', ';'], [Char.ofNat 0x1d508]),
   (['E', 'g', 'r', 'a', 'v', 'e'], ['\u00c8']), (['E', 'g', 'r', 'a', 'v', 'e', ';'], ['\u00c8']),
   (['E', 'l', 'e', 'm', 'e', 'n', 't', ';'], ['\u2208']),
   (['E', 'm', 'a', 'c', 'r', ';'], ['\u0112']),
   (['E', 'm', 'p', 't', 'y', 'S', 'm', 'a', 'l', 'l', 'S', 'q', 'u', 'a', 'r', 'e', ';'], ['\u25fb']),
   (['E', 'm', 'p', 't', 'y', 'V', 'e', 'r', 'y', 'S', 'm', 'a', 'l', 'l', 'S', 'q', 'u', 'a', 'r', 'e', ';'], ['\u25ab']),
   (['E', 'o', 'g', 'o', 'n', ';'], ['\u0118']), (['E', 'o', 'p', 'f', ';'], [Char.ofNat 0x1d53c]),
   (['E', 'p', 's', 'i', 'l', 'o', 'n', ';'], ['\u0395']),
   (['E', 'q', 'u', 'a', 'l', ';'], ['\u2a75']),
   (['E', 'q', 'u', 'a', 'l', 'T', 'i', 'l', 'd', 'e', ';'], ['\u2242']),
   (['E', 'q', 'u', 'i', 'l', 'i', 'b', 'r', 'i', 'u', 'm', ';'], ['\u21cc']),
   (['E', 's', 'c', 'r', ';'], ['\u2130']), (['E', 's', 'i', 'm', ';'], ['\u2a73']),
   (['E', 't', 'a', ';'], ['\u0397']), (['E', 'u', 'm', 'l'], ['\u00cb']),
   (['E', 'u', 'm', 'l', ';'], ['\u00cb']), (['E', 'x', 'i', 's', 't', 's', ';'], ['\u2203']),
   (['E', 'x', 'p', 'o', 'n', 'e', 'n', 't', 'i', 'a', 'l', 'E', ';'], ['\u2147'])]

/-- Names that begin with `F`. -/
private def upperF : List (Text × Text) :=
  [(['F', 'c', 'y', ';'], ['\u0424']), (['F', 'f', 'r', ';'], [Char.ofNat 0x1d509]),
   (['F', 'i', 'l', 'l', 'e', 'd', 'S', 'm', 'a', 'l', 'l', 'S', 'q', 'u', 'a', 'r', 'e', ';'], ['\u25fc']),
   (['F', 'i', 'l', 'l', 'e', 'd', 'V', 'e', 'r', 'y', 'S', 'm', 'a', 'l', 'l', 'S', 'q', 'u', 'a', 'r', 'e', ';'], ['\u25aa']),
   (['F', 'o', 'p', 'f', ';'], [Char.ofNat 0x1d53d]),
   (['F', 'o', 'r', 'A', 'l', 'l', ';'], ['\u2200']),
   (['F', 'o', 'u', 'r', 'i', 'e', 'r', 't', 'r', 'f', ';'], ['\u2131']),
   (['F', 's', 'c', 'r', ';'], ['\u2131'])]

/-- Names that begin with `G`. -/
private def upperG : List (Text × Text) :=
  [(['G', 'J', 'c', 'y', ';'], ['\u0403']), (['G', 'T'], ['\u003e']), (['G', 'T', ';'], ['\u003e']),
   (['G', 'a', 'm', 'm', 'a', ';'], ['\u0393']), (['G', 'a', 'm', 'm', 'a', 'd', ';'], ['\u03dc']),
   (['G', 'b', 'r', 'e', 'v', 'e', ';'], ['\u011e']),
   (['G', 'c', 'e', 'd', 'i', 'l', ';'], ['\u0122']), (['G', 'c', 'i', 'r', 'c', ';'], ['\u011c']),
   (['G', 'c', 'y', ';'], ['\u0413']), (['G', 'd', 'o', 't', ';'], ['\u0120']),
   (['G', 'f', 'r', ';'], [Char.ofNat 0x1d50a]), (['G', 'g', ';'], ['\u22d9']),
   (['G', 'o', 'p', 'f', ';'], [Char.ofNat 0x1d53e]),
   (['G', 'r', 'e', 'a', 't', 'e', 'r', 'E', 'q', 'u', 'a', 'l', ';'], ['\u2265']),
   (['G', 'r', 'e', 'a', 't', 'e', 'r', 'E', 'q', 'u', 'a', 'l', 'L', 'e', 's', 's', ';'], ['\u22db']),
   (['G', 'r', 'e', 'a', 't', 'e', 'r', 'F', 'u', 'l', 'l', 'E', 'q', 'u', 'a', 'l', ';'], ['\u2267']),
   (['G', 'r', 'e', 'a', 't', 'e', 'r', 'G', 'r', 'e', 'a', 't', 'e', 'r', ';'], ['\u2aa2']),
   (['G', 'r', 'e', 'a', 't', 'e', 'r', 'L', 'e', 's', 's', ';'], ['\u2277']),
   (['G', 'r', 'e', 'a', 't', 'e', 'r', 'S', 'l', 'a', 'n', 't', 'E', 'q', 'u', 'a', 'l', ';'], ['\u2a7e']),
   (['G', 'r', 'e', 'a', 't', 'e', 'r', 'T', 'i', 'l', 'd', 'e', ';'], ['\u2273']),
   (['G', 's', 'c', 'r', ';'], [Char.ofNat 0x1d4a2]), (['G', 't', ';'], ['\u226b'])]

/-- Names that begin with `H`. -/
private def upperH : List (Text × Text) :=
  [(['H', 'A', 'R', 'D', 'c', 'y', ';'], ['\u042a']), (['H', 'a', 'c', 'e', 'k', ';'], ['\u02c7']),
   (['H', 'a', 't', ';'], ['\u005e']), (['H', 'c', 'i', 'r', 'c', ';'], ['\u0124']),
   (['H', 'f', 'r', ';'], ['\u210c']),
   (['H', 'i', 'l', 'b', 'e', 'r', 't', 'S', 'p', 'a', 'c', 'e', ';'], ['\u210b']),
   (['H', 'o', 'p', 'f', ';'], ['\u210d']),
   (['H', 'o', 'r', 'i', 'z', 'o', 'n', 't', 'a', 'l', 'L', 'i', 'n', 'e', ';'], ['\u2500']),
   (['H', 's', 'c', 'r', ';'], ['\u210b']), (['H', 's', 't', 'r', 'o', 'k', ';'], ['\u0126']),
   (['H', 'u', 'm', 'p', 'D', 'o', 'w', 'n', 'H', 'u', 'm', 'p', ';'], ['\u224e']),
   (['H', 'u', 'm', 'p', 'E', 'q', 'u', 'a', 'l', ';'], ['\u224f'])]

/-- Names that begin with `I`. -/
private def upperI : List (Text × Text) :=
  [(['I', 'E', 'c', 'y', ';'], ['\u0415']), (['I', 'J', 'l', 'i', 'g', ';'], ['\u0132']),
   (['I', 'O', 'c', 'y', ';'], ['\u0401']), (['I', 'a', 'c', 'u', 't', 'e'], ['\u00cd']),
   (['I', 'a', 'c', 'u', 't', 'e', ';'], ['\u00cd']), (['I', 'c', 'i', 'r', 'c'], ['\u00ce']),
   (['I', 'c', 'i', 'r', 'c', ';'], ['\u00ce']), (['I', 'c', 'y', ';'], ['\u0418']),
   (['I', 'd', 'o', 't', ';'], ['\u0130']), (['I', 'f', 'r', ';'], ['\u2111']),
   (['I', 'g', 'r', 'a', 'v', 'e'], ['\u00cc']), (['I', 'g', 'r', 'a', 'v', 'e', ';'], ['\u00cc']),
   (['I', 'm', ';'], ['\u2111']), (['I', 'm', 'a', 'c', 'r', ';'], ['\u012a']),
   (['I', 'm', 'a', 'g', 'i', 'n', 'a', 'r', 'y', 'I', ';'], ['\u2148']),
   (['I', 'm', 'p', 'l', 'i', 'e', 's', ';'], ['\u21d2']), (['I', 'n', 't', ';'], ['\u222c']),
   (['I', 'n', 't', 'e', 'g', 'r', 'a', 'l', ';'], ['\u222b']),
   (['I', 'n', 't', 'e', 'r', 's', 'e', 'c', 't', 'i', 'o', 'n', ';'], ['\u22c2']),
   (['I', 'n', 'v', 'i', 's', 'i', 'b', 'l', 'e', 'C', 'o', 'm', 'm', 'a', ';'], ['\u2063']),
   (['I', 'n', 'v', 'i', 's', 'i', 'b', 'l', 'e', 'T', 'i', 'm', 'e', 's', ';'], ['\u2062']),
   (['I', 'o', 'g', 'o', 'n', ';'], ['\u012e']), (['I', 'o', 'p', 'f', ';'], [Char.ofNat 0x1d540]),
   (['I', 'o', 't', 'a', ';'], ['\u0399']), (['I', 's', 'c', 'r', ';'], ['\u2110']),
   (['I', 't', 'i', 'l', 'd', 'e', ';'], ['\u0128']), (['I', 'u', 'k', 'c', 'y', ';'], ['\u0406']),
   (['I', 'u', 'm', 'l'], ['\u00cf']), (['I', 'u', 'm', 'l', ';'], ['\u00cf'])]

/-- Names that begin with `J`. -/
private def upperJ : List (Text × Text) :=
  [(['J', 'c', 'i', 'r', 'c', ';'], ['\u0134']), (['J', 'c', 'y', ';'], ['\u0419']),
   (['J', 'f', 'r', ';'], [Char.ofNat 0x1d50d]), (['J', 'o', 'p', 'f', ';'], [Char.ofNat 0x1d541]),
   (['J', 's', 'c', 'r', ';'], [Char.ofNat 0x1d4a5]),
   (['J', 's', 'e', 'r', 'c', 'y', ';'], ['\u0408']), (['J', 'u', 'k', 'c', 'y', ';'], ['\u0404'])]

/-- Names that begin with `K`. -/
private def upperK : List (Text × Text) :=
  [(['K', 'H', 'c', 'y', ';'], ['\u0425']), (['K', 'J', 'c', 'y', ';'], ['\u040c']),
   (['K', 'a', 'p', 'p', 'a', ';'], ['\u039a']), (['K', 'c', 'e', 'd', 'i', 'l', ';'], ['\u0136']),
   (['K', 'c', 'y', ';'], ['\u041a']), (['K', 'f', 'r', ';'], [Char.ofNat 0x1d50e]),
   (['K', 'o', 'p', 'f', ';'], [Char.ofNat 0x1d542]),
   (['K', 's', 'c', 'r', ';'], [Char.ofNat 0x1d4a6])]

/-- Names that begin with `L`. -/
private def upperL : List (Text × Text) :=
  [(['L', 'J', 'c', 'y', ';'], ['\u0409']), (['L', 'T'], ['\u003c']), (['L', 'T', ';'], ['\u003c']),
   (['L', 'a', 'c', 'u', 't', 'e', ';'], ['\u0139']),
   (['L', 'a', 'm', 'b', 'd', 'a', ';'], ['\u039b']), (['L', 'a', 'n', 'g', ';'], ['\u27ea']),
   (['L', 'a', 'p', 'l', 'a', 'c', 'e', 't', 'r', 'f', ';'], ['\u2112']),
   (['L', 'a', 'r', 'r', ';'], ['\u219e']), (['L', 'c', 'a', 'r', 'o', 'n', ';'], ['\u013d']),
   (['L', 'c', 'e', 'd', 'i', 'l', ';'], ['\u013b']), (['L', 'c', 'y', ';'], ['\u041b']),
   (['L', 'e', 'f', 't', 'A', 'n', 'g', 'l', 'e', 'B', 'r', 'a', 'c', 'k', 'e', 't', ';'], ['\u27e8']),
   (['L', 'e', 'f', 't', 'A', 'r', 'r', 'o', 'w', ';'], ['\u2190']),
   (['L', 'e', 'f', 't', 'A', 'r', 'r', 'o', 'w', 'B', 'a', 'r', ';'], ['\u21e4']),
   (['L', 'e', 'f', 't', 'A', 'r', 'r', 'o', 'w', 'R', 'i', 'g', 'h', 't', 'A', 'r', 'r', 'o', 'w', ';'], ['\u21c6']),
   (['L', 'e', 'f', 't', 'C', 'e', 'i', 'l', 'i', 'n', 'g', ';'], ['\u2308']),
   (['L', 'e', 'f', 't', 'D', 'o', 'u', 'b', 'l', 'e', 'B', 'r', 'a', 'c', 'k', 'e', 't', ';'], ['\u27e6']),
   (['L', 'e', 'f', 't', 'D', 'o', 'w', 'n', 'T', 'e', 'e', 'V', 'e', 'c', 't', 'o', 'r', ';'], ['\u2961']),
   (['L', 'e', 'f', 't', 'D', 'o', 'w', 'n', 'V', 'e', 'c', 't', 'o', 'r', ';'], ['\u21c3']),
   (['L', 'e', 'f', 't', 'D', 'o', 'w', 'n', 'V', 'e', 'c', 't', 'o', 'r', 'B', 'a', 'r', ';'], ['\u2959']),
   (['L', 'e', 'f', 't', 'F', 'l', 'o', 'o', 'r', ';'], ['\u230a']),
   (['L', 'e', 'f', 't', 'R', 'i', 'g', 'h', 't', 'A', 'r', 'r', 'o', 'w', ';'], ['\u2194']),
   (['L', 'e', 'f', 't', 'R', 'i', 'g', 'h', 't', 'V', 'e', 'c', 't', 'o', 'r', ';'], ['\u294e']),
   (['L', 'e', 'f', 't', 'T', 'e', 'e', ';'], ['\u22a3']),
   (['L', 'e', 'f', 't', 'T', 'e', 'e', 'A', 'r', 'r', 'o', 'w', ';'], ['\u21a4']),
   (['L', 'e', 'f', 't', 'T', 'e', 'e', 'V', 'e', 'c', 't', 'o', 'r', ';'], ['\u295a']),
   (['L', 'e', 'f', 't', 'T', 'r', 'i', 'a', 'n', 'g', 'l', 'e', ';'], ['\u22b2']),
   (['L', 'e', 'f', 't', 'T', 'r', 'i', 'a', 'n', 'g', 'l', 'e', 'B', 'a', 'r', ';'], ['\u29cf']),
   (['L', 'e', 'f', 't', 'T', 'r', 'i', 'a', 'n', 'g', 'l', 'e', 'E', 'q', 'u', 'a', 'l', ';'], ['\u22b4']),
   (['L', 'e', 'f', 't', 'U', 'p', 'D', 'o', 'w', 'n', 'V', 'e', 'c', 't', 'o', 'r', ';'], ['\u2951']),
   (['L', 'e', 'f', 't', 'U', 'p', 'T', 'e', 'e', 'V', 'e', 'c', 't', 'o', 'r', ';'], ['\u2960']),
   (['L', 'e', 'f', 't', 'U', 'p', 'V', 'e', 'c', 't', 'o', 'r', ';'], ['\u21bf']),
   (['L', 'e', 'f', 't', 'U', 'p', 'V', 'e', 'c', 't', 'o', 'r', 'B', 'a', 'r', ';'], ['\u2958']),
   (['L', 'e', 'f', 't', 'V', 'e', 'c', 't', 'o', 'r', ';'], ['\u21bc']),
   (['L', 'e', 'f', 't', 'V', 'e', 'c', 't', 'o', 'r', 'B', 'a', 'r', ';'], ['\u2952']),
   (['L', 'e', 'f', 't', 'a', 'r', 'r', 'o', 'w', ';'], ['\u21d0']),
   (['L', 'e', 'f', 't', 'r', 'i', 'g', 'h', 't', 'a', 'r', 'r', 'o', 'w', ';'], ['\u21d4']),
   (['L', 'e', 's', 's', 'E', 'q', 'u', 'a', 'l', 'G', 'r', 'e', 'a', 't', 'e', 'r', ';'], ['\u22da']),
   (['L', 'e', 's', 's', 'F', 'u', 'l', 'l', 'E', 'q', 'u', 'a', 'l', ';'], ['\u2266']),
   (['L', 'e', 's', 's', 'G', 'r', 'e', 'a', 't', 'e', 'r', ';'], ['\u2276']),
   (['L', 'e', 's', 's', 'L', 'e', 's', 's', ';'], ['\u2aa1']),
   (['L', 'e', 's', 's', 'S', 'l', 'a', 'n', 't', 'E', 'q', 'u', 'a', 'l', ';'], ['\u2a7d']),
   (['L', 'e', 's', 's', 'T', 'i', 'l', 'd', 'e', ';'], ['\u2272']),
   (['L', 'f', 'r', ';'], [Char.ofNat 0x1d50f]), (['L', 'l', ';'], ['\u22d8']),
   (['L', 'l', 'e', 'f', 't', 'a', 'r', 'r', 'o', 'w', ';'], ['\u21da']),
   (['L', 'm', 'i', 'd', 'o', 't', ';'], ['\u013f']),
   (['L', 'o', 'n', 'g', 'L', 'e', 'f', 't', 'A', 'r', 'r', 'o', 'w', ';'], ['\u27f5']),
   (['L', 'o', 'n', 'g', 'L', 'e', 'f', 't', 'R', 'i', 'g', 'h', 't', 'A', 'r', 'r', 'o', 'w', ';'], ['\u27f7']),
   (['L', 'o', 'n', 'g', 'R', 'i', 'g', 'h', 't', 'A', 'r', 'r', 'o', 'w', ';'], ['\u27f6']),
   (['L', 'o', 'n', 'g', 'l', 'e', 'f', 't', 'a', 'r', 'r', 'o', 'w', ';'], ['\u27f8']),
   (['L', 'o', 'n', 'g', 'l', 'e', 'f', 't', 'r', 'i', 'g', 'h', 't', 'a', 'r', 'r', 'o', 'w', ';'], ['\u27fa']),
   (['L', 'o', 'n', 'g', 'r', 'i', 'g', 'h', 't', 'a', 'r', 'r', 'o', 'w', ';'], ['\u27f9']),
   (['L', 'o', 'p', 'f', ';'], [Char.ofNat 0x1d543]),
   (['L', 'o', 'w', 'e', 'r', 'L', 'e', 'f', 't', 'A', 'r', 'r', 'o', 'w', ';'], ['\u2199']),
   (['L', 'o', 'w', 'e', 'r', 'R', 'i', 'g', 'h', 't', 'A', 'r', 'r', 'o', 'w', ';'], ['\u2198']),
   (['L', 's', 'c', 'r', ';'], ['\u2112']), (['L', 's', 'h', ';'], ['\u21b0']),
   (['L', 's', 't', 'r', 'o', 'k', ';'], ['\u0141']), (['L', 't', ';'], ['\u226a'])]

/-- Names that begin with `M`. -/
private def upperM : List (Text × Text) :=
  [(['M', 'a', 'p', ';'], ['\u2905']), (['M', 'c', 'y', ';'], ['\u041c']),
   (['M', 'e', 'd', 'i', 'u', 'm', 'S', 'p', 'a', 'c', 'e', ';'], ['\u205f']),
   (['M', 'e', 'l', 'l', 'i', 'n', 't', 'r', 'f', ';'], ['\u2133']),
   (['M', 'f', 'r', ';'], [Char.ofNat 0x1d510]),
   (['M', 'i', 'n', 'u', 's', 'P', 'l', 'u', 's', ';'], ['\u2213']),
   (['M', 'o', 'p', 'f', ';'], [Char.ofNat 0x1d544]), (['M', 's', 'c', 'r', ';'], ['\u2133']),
   (['M', 'u', ';'], ['\u039c'])]

/-- Names that begin with `N`. -/
private def upperN : List (Text × Text) :=
  [(['N', 'J', 'c', 'y', ';'], ['\u040a']), (['N', 'a', 'c', 'u', 't', 'e', ';'], ['\u0143']),
   (['N', 'c', 'a', 'r', 'o', 'n', ';'], ['\u0147']),
   (['N', 'c', 'e', 'd', 'i', 'l', ';'], ['\u0145']), (['N', 'c', 'y', ';'], ['\u041d']),
   (['N', 'e', 'g', 'a', 't', 'i', 'v', 'e', 'M', 'e', 'd', 'i', 'u', 'm', 'S', 'p', 'a', 'c', 'e', ';'], ['\u200b']),
   (['N', 'e', 'g', 'a', 't', 'i', 'v', 'e', 'T', 'h', 'i', 'c', 'k', 'S', 'p', 'a', 'c', 'e', ';'], ['\u200b']),
   (['N', 'e', 'g', 'a', 't', 'i', 'v', 'e', 'T', 'h', 'i', 'n', 'S', 'p', 'a', 'c', 'e', ';'], ['\u200b']),
   (['N', 'e', 'g', 'a', 't', 'i', 'v', 'e', 'V', 'e', 'r', 'y', 'T', 'h', 'i', 'n', 'S', 'p', 'a', 'c', 'e', ';'], ['\u200b']),
   (['N', 'e', 's', 't', 'e', 'd', 'G', 'r', 'e', 'a', 't', 'e', 'r', 'G', 'r', 'e', 'a', 't', 'e', 'r', ';'], ['\u226b']),
   (['N', 'e', 's', 't', 'e', 'd', 'L', 'e', 's', 's', 'L', 'e', 's', 's', ';'], ['\u226a']),
   (['N', 'e', 'w', 'L', 'i', 'n', 'e', ';'], ['\u000a']),
   (['N', 'f', 'r', ';'], [Char.ofNat 0x1d511]),
   (['N', 'o', 'B', 'r', 'e', 'a', 'k', ';'], ['\u2060']),
   (['N', 'o', 'n', 'B', 'r', 'e', 'a', 'k', 'i', 'n', 'g', 'S', 'p', 'a', 'c', 'e', ';'], ['\u00a0']),
   (['N', 'o', 'p', 'f', ';'], ['\u2115']), (['N', 'o', 't', ';'], ['\u2aec']),
   (['N', 'o', 't', 'C', 'o', 'n', 'g', 'r', 'u', 'e', 'n', 't', ';'], ['\u2262']),
   (['N', 'o', 't', 'C', 'u', 'p', 'C', 'a', 'p', ';'], ['\u226d']),
   (['N', 'o', 't', 'D', 'o', 'u', 'b', 'l', 'e', 'V', 'e', 'r', 't', 'i', 'c', 'a', 'l', 'B', 'a', 'r', ';'], ['\u2226']),
   (['N', 'o', 't', 'E', 'l', 'e', 'm', 'e', 'n', 't', ';'], ['\u2209']),
   (['N', 'o', 't', 'E', 'q', 'u', 'a', 'l', ';'], ['\u2260']),
   (['N', 'o', 't', 'E', 'q', 'u', 'a', 'l', 'T', 'i', 'l', 'd', 'e', ';'], ['\u2242', '\u0338']),
   (['N', 'o', 't', 'E', 'x', 'i', 's', 't', 's', ';'], ['\u2204']),
   (['N', 'o', 't', 'G', 'r', 'e', 'a', 't', 'e', 'r', ';'], ['\u226f']),
   (['N', 'o', 't', 'G', 'r', 'e', 'a', 't', 'e', 'r', 'E', 'q', 'u', 'a', 'l', ';'], ['\u2271']),
   (['N', 'o', 't', 'G', 'r', 'e', 'a', 't', 'e', 'r', 'F', 'u', 'l', 'l', 'E', 'q', 'u', 'a', 'l', ';'], ['\u2267', '\u0338']),
   (['N', 'o', 't', 'G', 'r', 'e', 'a', 't', 'e', 'r', 'G', 'r', 'e', 'a', 't', 'e', 'r', ';'], ['\u226b', '\u0338']),
   (['N', 'o', 't', 'G', 'r', 'e', 'a', 't', 'e', 'r', 'L', 'e', 's', 's', ';'], ['\u2279']),
   (['N', 'o', 't', 'G', 'r', 'e', 'a', 't', 'e', 'r', 'S', 'l', 'a', 'n', 't', 'E', 'q', 'u', 'a', 'l', ';'], ['\u2a7e', '\u0338']),
   (['N', 'o', 't', 'G', 'r', 'e', 'a', 't', 'e', 'r', 'T', 'i', 'l', 'd', 'e', ';'], ['\u2275']),
   (['N', 'o', 't', 'H', 'u', 'm', 'p', 'D', 'o', 'w', 'n', 'H', 'u', 'm', 'p', ';'], ['\u224e', '\u0338']),
   (['N', 'o', 't', 'H', 'u', 'm', 'p', 'E', 'q', 'u', 'a', 'l', ';'], ['\u224f', '\u0338']),
   (['N', 'o', 't', 'L', 'e', 'f', 't', 'T', 'r', 'i', 'a', 'n', 'g', 'l', 'e', ';'], ['\u22ea']),
   (['N', 'o', 't', 'L', 'e', 'f', 't', 'T', 'r', 'i', 'a', 'n', 'g', 'l', 'e', 'B', 'a', 'r', ';'], ['\u29cf', '\u0338']),
   (['N', 'o', 't', 'L', 'e', 'f', 't', 'T', 'r', 'i', 'a', 'n', 'g', 'l', 'e', 'E', 'q', 'u', 'a', 'l', ';'], ['\u22ec']),
   (['N', 'o', 't', 'L', 'e', 's', 's', ';'], ['\u226e']),
   (['N', 'o', 't', 'L', 'e', 's', 's', 'E', 'q', 'u', 'a', 'l', ';'], ['\u2270']),
   (['N', 'o', 't', 'L', 'e', 's', 's', 'G', 'r', 'e', 'a', 't', 'e', 'r', ';'], ['\u2278']),
   (['N', 'o', 't', 'L', 'e', 's', 's', 'L', 'e', 's', 's', ';'], ['\u226a', '\u0338']),
   (['N', 'o', 't', 'L', 'e', 's', 's', 'S', 'l', 'a', 'n', 't', 'E', 'q', 'u', 'a', 'l', ';'], ['\u2a7d', '\u0338']),
   (['N', 'o', 't', 'L', 'e', 's', 's', 'T', 'i', 'l', 'd', 'e', ';'], ['\u2274']),
   (['N', 'o', 't', 'N', 'e', 's', 't', 'e', 'd', 'G', 'r', 'e', 'a', 't', 'e', 'r', 'G', 'r', 'e', 'a', 't', 'e', 'r', ';'], ['\u2aa2', '\u0338']),
   (['N', 'o', 't', 'N', 'e', 's', 't', 'e', 'd', 'L', 'e', 's', 's', 'L', 'e', 's', 's', ';'], ['\u2aa1', '\u0338']),
   (['N', 'o', 't', 'P', 'r', 'e', 'c', 'e', 'd', 'e', 's', ';'], ['\u2280']),
   (['N', 'o', 't', 'P', 'r', 'e', 'c', 'e', 'd', 'e', 's', 'E', 'q', 'u', 'a', 'l', ';'], ['\u2aaf', '\u0338']),
   (['N', 'o', 't', 'P', 'r', 'e', 'c', 'e', 'd', 'e', 's', 'S', 'l', 'a', 'n', 't', 'E', 'q', 'u', 'a', 'l', ';'], ['\u22e0']),
   (['N', 'o', 't', 'R', 'e', 'v', 'e', 'r', 's', 'e', 'E', 'l', 'e', 'm', 'e', 'n', 't', ';'], ['\u220c']),
   (['N', 'o', 't', 'R', 'i', 'g', 'h', 't', 'T', 'r', 'i', 'a', 'n', 'g', 'l', 'e', ';'], ['\u22eb']),
   (['N', 'o', 't', 'R', 'i', 'g', 'h', 't', 'T', 'r', 'i', 'a', 'n', 'g', 'l', 'e', 'B', 'a', 'r', ';'], ['\u29d0', '\u0338']),
   (['N', 'o', 't', 'R', 'i', 'g', 'h', 't', 'T', 'r', 'i', 'a', 'n', 'g', 'l', 'e', 'E', 'q', 'u', 'a', 'l', ';'], ['\u22ed']),
   (['N', 'o', 't', 'S', 'q', 'u', 'a', 'r', 'e', 'S', 'u', 'b', 's', 'e', 't', ';'], ['\u228f', '\u0338']),
   (['N', 'o', 't', 'S', 'q', 'u', 'a', 'r', 'e', 'S', 'u', 'b', 's', 'e', 't', 'E', 'q', 'u', 'a', 'l', ';'], ['\u22e2']),
   (['N', 'o', 't', 'S', 'q', 'u', 'a', 'r', 'e', 'S', 'u', 'p', 'e', 'r', 's', 'e', 't', ';'], ['\u2290', '\u0338']),
   (['N', 'o', 't', 'S', 'q', 'u', 'a', 'r', 'e', 'S', 'u', 'p', 'e', 'r', 's', 'e', 't', 'E', 'q', 'u', 'a', 'l', ';'], ['\u22e3']),
   (['N', 'o', 't', 'S', 'u', 'b', 's', 'e', 't', ';'], ['\u2282', '\u20d2']),
   (['N', 'o', 't', 'S', 'u', 'b', 's', 'e', 't', 'E', 'q', 'u', 'a', 'l', ';'], ['\u2288']),
   (['N', 'o', 't', 'S', 'u', 'c', 'c', 'e', 'e', 'd', 's', ';'], ['\u2281']),
   (['N', 'o', 't', 'S', 'u', 'c', 'c', 'e', 'e', 'd', 's', 'E', 'q', 'u', 'a', 'l', ';'], ['\u2ab0', '\u0338']),
   (['N', 'o', 't', 'S', 'u', 'c', 'c', 'e', 'e', 'd', 's', 'S', 'l', 'a', 'n', 't', 'E', 'q', 'u', 'a', 'l', ';'], ['\u22e1']),
   (['N', 'o', 't', 'S', 'u', 'c', 'c', 'e', 'e', 'd', 's', 'T', 'i', 'l', 'd', 'e', ';'], ['\u227f', '\u0338']),
   (['N', 'o', 't', 'S', 'u', 'p', 'e', 'r', 's', 'e', 't', ';'], ['\u2283', '\u20d2']),
   (['N', 'o', 't', 'S', 'u', 'p', 'e', 'r', 's', 'e', 't', 'E', 'q', 'u', 'a', 'l', ';'], ['\u2289']),
   (['N', 'o', 't', 'T', 'i', 'l', 'd', 'e', ';'], ['\u2241']),
   (['N', 'o', 't', 'T', 'i', 'l', 'd', 'e', 'E', 'q', 'u', 'a', 'l', ';'], ['\u2244']),
   (['N', 'o', 't', 'T', 'i', 'l', 'd', 'e', 'F', 'u', 'l', 'l', 'E', 'q', 'u', 'a', 'l', ';'], ['\u2247']),
   (['N', 'o', 't', 'T', 'i', 'l', 'd', 'e', 'T', 'i', 'l', 'd', 'e', ';'], ['\u2249']),
   (['N', 'o', 't', 'V', 'e', 'r', 't', 'i', 'c', 'a', 'l', 'B', 'a', 'r', ';'], ['\u2224']),
   (['N', 's', 'c', 'r', ';'], [Char.ofNat 0x1d4a9]), (['N', 't', 'i', 'l', 'd', 'e'], ['\u00d1']),
   (['N', 't', 'i', 'l', 'd', 'e', ';'], ['\u00d1']), (['N', 'u', ';'], ['\u039d'])]

/-- Names that begin with `O`. -/
private def upperO : List (Text × Text) :=
  [(['O', 'E', 'l', 'i', 'g', ';'], ['\u0152']), (['O', 'a', 'c', 'u', 't', 'e'], ['\u00d3']),
   (['O', 'a', 'c', 'u', 't', 'e', ';'], ['\u00d3']), (['O', 'c', 'i', 'r', 'c'], ['\u00d4']),
   (['O', 'c', 'i', 'r', 'c', ';'], ['\u00d4']), (['O', 'c', 'y', ';'], ['\u041e']),
   (['O', 'd', 'b', 'l', 'a', 'c', ';'], ['\u0150']), (['O', 'f', 'r', ';'], [Char.ofNat 0x1d512]),
   (['O', 'g', 'r', 'a', 'v', 'e'], ['\u00d2']), (['O', 'g', 'r', 'a', 'v', 'e', ';'], ['\u00d2']),
   (['O', 'm', 'a', 'c', 'r', ';'], ['\u014c']), (['O', 'm', 'e', 'g', 'a', ';'], ['\u03a9']),
   (['O', 'm', 'i', 'c', 'r', 'o', 'n', ';'], ['\u039f']),
   (['O', 'o', 'p', 'f', ';'], [Char.ofNat 0x1d546]),
   (['O', 'p', 'e', 'n', 'C', 'u', 'r', 'l', 'y', 'D', 'o', 'u', 'b', 'l', 'e', 'Q', 'u', 'o', 't', 'e', ';'], ['\u201c']),
   (['O', 'p', 'e', 'n', 'C', 'u', 'r', 'l', 'y', 'Q', 'u', 'o', 't', 'e', ';'], ['\u2018']),
   (['O', 'r', ';'], ['\u2a54']), (['O', 's', 'c', 'r', ';'], [Char.ofNat 0x1d4aa]),
   (['O', 's', 'l', 'a', 's', 'h'], ['\u00d8']), (['O', 's', 'l', 'a', 's', 'h', ';'], ['\u00d8']),
   (['O', 't', 'i', 'l', 'd', 'e'], ['\u00d5']), (['O', 't', 'i', 'l', 'd', 'e', ';'], ['\u00d5']),
   (['O', 't', 'i', 'm', 'e', 's', ';'], ['\u2a37']), (['O', 'u', 'm', 'l'], ['\u00d6']),
   (['O', 'u', 'm', 'l', ';'], ['\u00d6']), (['O', 'v', 'e', 'r', 'B', 'a', 'r', ';'], ['\u203e']),
   (['O', 'v', 'e', 'r', 'B', 'r', 'a', 'c', 'e', ';'], ['\u23de']),
   (['O', 'v', 'e', 'r', 'B', 'r', 'a', 'c', 'k', 'e', 't', ';'], ['\u23b4']),
   (['O', 'v', 'e', 'r', 'P', 'a', 'r', 'e', 'n', 't', 'h', 'e', 's', 'i', 's', ';'], ['\u23dc'])]

/-- Names that begin with `P`. -/
private def upperP : List (Text × Text) :=
  [(['P', 'a', 'r', 't', 'i', 'a', 'l', 'D', ';'], ['\u2202']), (['P', 'c', 'y', ';'], ['\u041f']),
   (['P', 'f', 'r', ';'], [Char.ofNat 0x1d513]), (['P', 'h', 'i', ';'], ['\u03a6']),
   (['P', 'i', ';'], ['\u03a0']), (['P', 'l', 'u', 's', 'M', 'i', 'n', 'u', 's', ';'], ['\u00b1']),
   (['P', 'o', 'i', 'n', 'c', 'a', 'r', 'e', 'p', 'l', 'a', 'n', 'e', ';'], ['\u210c']),
   (['P', 'o', 'p', 'f', ';'], ['\u2119']), (['P', 'r', ';'], ['\u2abb']),
   (['P', 'r', 'e', 'c', 'e', 'd', 'e', 's', ';'], ['\u227a']),
   (['P', 'r', 'e', 'c', 'e', 'd', 'e', 's', 'E', 'q', 'u', 'a', 'l', ';'], ['\u2aaf']),
   (['P', 'r', 'e', 'c', 'e', 'd', 'e', 's', 'S', 'l', 'a', 'n', 't', 'E', 'q', 'u', 'a', 'l', ';'], ['\u227c']),
   (['P', 'r', 'e', 'c', 'e', 'd', 'e', 's', 'T', 'i', 'l', 'd', 'e', ';'], ['\u227e']),
   (['P', 'r', 'i', 'm', 'e', ';'], ['\u2033']),
   (['P', 'r', 'o', 'd', 'u', 'c', 't', ';'], ['\u220f']),
   (['P', 'r', 'o', 'p', 'o', 'r', 't', 'i', 'o', 'n', ';'], ['\u2237']),
   (['P', 'r', 'o', 'p', 'o', 'r', 't', 'i', 'o', 'n', 'a', 'l', ';'], ['\u221d']),
   (['P', 's', 'c', 'r', ';'], [Char.ofNat 0x1d4ab]), (['P', 's', 'i', ';'], ['\u03a8'])]

/-- Names that begin with `Q`. -/
private def upperQ : List (Text × Text) :=
  [(['Q', 'U', 'O', 'T'], ['\u0022']), (['Q', 'U', 'O', 'T', ';'], ['\u0022']),
   (['Q', 'f', 'r', ';'], [Char.ofNat 0x1d514]), (['Q', 'o', 'p', 'f', ';'], ['\u211a']),
   (['Q', 's', 'c', 'r', ';'], [Char.ofNat 0x1d4ac])]

/-- Names that begin with `R`. -/
private def upperR : List (Text × Text) :=
  [(['R', 'B', 'a', 'r', 'r', ';'], ['\u2910']), (['R', 'E', 'G'], ['\u00ae']),
   (['R', 'E', 'G', ';'], ['\u00ae']), (['R', 'a', 'c', 'u', 't', 'e', ';'], ['\u0154']),
   (['R', 'a', 'n', 'g', ';'], ['\u27eb']), (['R', 'a', 'r', 'r', ';'], ['\u21a0']),
   (['R', 'a', 'r', 'r', 't', 'l', ';'], ['\u2916']),
   (['R', 'c', 'a', 'r', 'o', 'n', ';'], ['\u0158']),
   (['R', 'c', 'e', 'd', 'i', 'l', ';'], ['\u0156']), (['R', 'c', 'y', ';'], ['\u0420']),
   (['R', 'e', ';'], ['\u211c']),
   (['R', 'e', 'v', 'e', 'r', 's', 'e', 'E', 'l', 'e', 'm', 'e', 'n', 't', ';'], ['\u220b']),
   (['R', 'e', 'v', 'e', 'r', 's', 'e', 'E', 'q', 'u', 'i', 'l', 'i', 'b', 'r', 'i', 'u', 'm', ';'], ['\u21cb']),
   (['R', 'e', 'v', 'e', 'r', 's', 'e', 'U', 'p', 'E', 'q', 'u', 'i', 'l', 'i', 'b', 'r', 'i', 'u', 'm', ';'], ['\u296f']),
   (['R', 'f', 'r', ';'], ['\u211c']), (['R', 'h', 'o', ';'], ['\u03a1']),
   (['R', 'i', 'g', 'h', 't', 'A', 'n', 'g', 'l', 'e', 'B', 'r', 'a', 'c', 'k', 'e', 't', ';'], ['\u27e9']),
   (['R', 'i', 'g', 'h', 't', 'A', 'r', 'r', 'o', 'w', ';'], ['\u2192']),
   (['R', 'i', 'g', 'h', 't', 'A', 'r', 'r', 'o', 'w', 'B', 'a', 'r', ';'], ['\u21e5']),
   (['R', 'i', 'g', 'h', 't', 'A', 'r', 'r', 'o', 'w', 'L', 'e', 'f', 't', 'A', 'r', 'r', 'o', 'w', ';'], ['\u21c4']),
   (['R', 'i', 'g', 'h', 't', 'C', 'e', 'i', 'l', 'i', 'n', 'g', ';'], ['\u2309']),
   (['R', 'i', 'g', 'h', 't', 'D', 'o', 'u', 'b', 'l', 'e', 'B', 'r', 'a', 'c', 'k', 'e', 't', ';'], ['\u27e7']),
   (['R', 'i', 'g', 'h', 't', 'D', 'o', 'w', 'n', 'T', 'e', 'e', 'V', 'e', 'c', 't', 'o', 'r', ';'], ['\u295d']),
   (['R', 'i', 'g', 'h', 't', 'D', 'o', 'w', 'n', 'V', 'e', 'c', 't', 'o', 'r', ';'], ['\u21c2']),
   (['R', 'i', 'g', 'h', 't', 'D', 'o', 'w', 'n', 'V', 'e', 'c', 't', 'o', 'r', 'B', 'a', 'r', ';'], ['\u2955']),
   (['R', 'i', 'g', 'h', 't', 'F', 'l', 'o', 'o', 'r', ';'], ['\u230b']),
   (['R', 'i', 'g', 'h', 't', 'T', 'e', 'e', ';'], ['\u22a2']),
   (['R', 'i', 'g', 'h', 't', 'T', 'e', 'e', 'A', 'r', 'r', 'o', 'w', ';'], ['\u21a6']),
   (['R', 'i', 'g', 'h', 't', 'T', 'e', 'e', 'V', 'e', 'c', 't', 'o', 'r', ';'], ['\u295b']),
   (['R', 'i', 'g', 'h', 't', 'T', 'r', 'i', 'a', 'n', 'g', 'l', 'e', ';'], ['\u22b3']),
   (['R', 'i', 'g', 'h', 't', 'T', 'r', 'i', 'a', 'n', 'g', 'l', 'e', 'B', 'a', 'r', ';'], ['\u29d0']),
   (['R', 'i', 'g', 'h', 't', 'T', 'r', 'i', 'a', 'n', 'g', 'l', 'e', 'E', 'q', 'u', 'a', 'l', ';'], ['\u22b5']),
   (['R', 'i', 'g', 'h', 't', 'U', 'p', 'D', 'o', 'w', 'n', 'V', 'e', 'c', 't', 'o', 'r', ';'], ['\u294f']),
   (['R', 'i', 'g', 'h', 't', 'U', 'p', 'T', 'e', 'e', 'V', 'e', 'c', 't', 'o', 'r', ';'], ['\u295c']),
   (['R', 'i', 'g', 'h', 't', 'U', 'p', 'V', 'e', 'c', 't', 'o', 'r', ';'], ['\u21be']),
   (['R', 'i', 'g', 'h', 't', 'U', 'p', 'V', 'e', 'c', 't', 'o', 'r', 'B', 'a', 'r', ';'], ['\u2954']),
   (['R', 'i', 'g', 'h', 't', 'V', 'e', 'c', 't', 'o', 'r', ';'], ['\u21c0']),
   (['R', 'i', 'g', 'h', 't', 'V', 'e', 'c', 't', 'o', 'r', 'B', 'a', 'r', ';'], ['\u2953']),
   (['R', 'i', 'g', 'h', 't', 'a', 'r', 'r', 'o', 'w', ';'], ['\u21d2']),
   (['R', 'o', 'p', 'f', ';'], ['\u211d']),
   (['R', 'o', 'u', 'n', 'd', 'I', 'm', 'p', 'l', 'i', 'e', 's', ';'], ['\u2970']),
   (['R', 'r', 'i', 'g', 'h', 't', 'a', 'r', 'r', 'o', 'w', ';'], ['\u21db']),
   (['R', 's', 'c', 'r', ';'], ['\u211b']), (['R', 's', 'h', ';'], ['\u21b1']),
   (['R', 'u', 'l', 'e', 'D', 'e', 'l', 'a', 'y', 'e', 'd', ';'], ['\u29f4'])]

/-- Names that begin with `S`. -/
private def upperS : List (Text × Text) :=
  [(['S', 'H', 'C', 'H', 'c', 'y', ';'], ['\u0429']), (['S', 'H', 'c', 'y', ';'], ['\u0428']),
   (['S', 'O', 'F', 'T', 'c', 'y', ';'], ['\u042c']),
   (['S', 'a', 'c', 'u', 't', 'e', ';'], ['\u015a']), (['S', 'c', ';'], ['\u2abc']),
   (['S', 'c', 'a', 'r', 'o', 'n', ';'], ['\u0160']),
   (['S', 'c', 'e', 'd', 'i', 'l', ';'], ['\u015e']), (['S', 'c', 'i', 'r', 'c', ';'], ['\u015c']),
   (['S', 'c', 'y', ';'], ['\u0421']), (['S', 'f', 'r', ';'], [Char.ofNat 0x1d516]),
   (['S', 'h', 'o', 'r', 't', 'D', 'o', 'w', 'n', 'A', 'r', 'r', 'o', 'w', ';'], ['\u2193']),
   (['S', 'h', 'o', 'r', 't', 'L', 'e', 'f', 't', 'A', 'r', 'r', 'o', 'w', ';'], ['\u2190']),
   (['S', 'h', 'o', 'r', 't', 'R', 'i', 'g', 'h', 't', 'A', 'r', 'r', 'o', 'w', ';'], ['\u2192']),
   (['S', 'h', 'o', 'r', 't', 'U', 'p', 'A', 'r', 'r', 'o', 'w', ';'], ['\u2191']),
   (['S', 'i', 'g', 'm', 'a', ';'], ['\u03a3']),
   (['S', 'm', 'a', 'l', 'l', 'C', 'i', 'r', 'c', 'l', 'e', ';'], ['\u2218']),
   (['S', 'o', 'p', 'f', ';'], [Char.ofNat 0x1d54a]), (['S', 'q', 'r', 't', ';'], ['\u221a']),
   (['S', 'q', 'u', 'a', 'r', 'e', ';'], ['\u25a1']),
   (['S', 'q', 'u', 'a', 'r', 'e', 'I', 'n', 't', 'e', 'r', 's', 'e', 'c', 't', 'i', 'o', 'n', ';'], ['\u2293']),
   (['S', 'q', 'u', 'a', 'r', 'e', 'S', 'u', 'b', 's', 'e', 't', ';'], ['\u228f']),
   (['S', 'q', 'u', 'a', 'r', 'e', 'S', 'u', 'b', 's', 'e', 't', 'E', 'q', 'u', 'a', 'l', ';'], ['\u2291']),
   (['S', 'q', 'u', 'a', 'r', 'e', 'S', 'u', 'p', 'e', 'r', 's', 'e', 't', ';'], ['\u2290']),
   (['S', 'q', 'u', 'a', 'r', 'e', 'S', 'u', 'p', 'e', 'r', 's', 'e', 't', 'E', 'q', 'u', 'a', 'l', ';'], ['\u2292']),
   (['S', 'q', 'u', 'a', 'r', 'e', 'U', 'n', 'i', 'o', 'n', ';'], ['\u2294']),
   (['S', 's', 'c', 'r', ';'], [Char.ofNat 0x1d4ae]), (['S', 't', 'a', 'r', ';'], ['\u22c6']),
   (['S', 'u', 'b', ';'], ['\u22d0']), (['S', 'u', 'b', 's', 'e', 't', ';'], ['\u22d0']),
   (['S', 'u', 'b', 's', 'e', 't', 'E', 'q', 'u', 'a', 'l', ';'], ['\u2286']),
   (['S', 'u', 'c', 'c', 'e', 'e', 'd', 's', ';'], ['\u227b']),
   (['S', 'u', 'c', 'c', 'e', 'e', 'd', 's', 'E', 'q', 'u', 'a', 'l', ';'], ['\u2ab0']),
   (['S', 'u', 'c', 'c', 'e', 'e', 'd', 's', 'S', 'l', 'a', 'n', 't', 'E', 'q', 'u', 'a', 'l', ';'], ['\u227d']),
   (['S', 'u', 'c', 'c', 'e', 'e', 'd', 's', 'T', 'i', 'l', 'd', 'e', ';'], ['\u227f']),
   (['S', 'u', 'c', 'h', 'T', 'h', 'a', 't', ';'], ['\u220b']), (['S', 'u', 'm', ';'], ['\u2211']),
   (['S', 'u', 'p', ';'], ['\u22d1']), (['S', 'u', 'p', 'e', 'r', 's', 'e', 't', ';'], ['\u2283']),
   (['S', 'u', 'p', 'e', 'r', 's', 'e', 't', 'E', 'q', 'u', 'a', 'l', ';'], ['\u2287']),
   (['S', 'u', 'p', 's', 'e', 't', ';'], ['\u22d1'])]

/-- Names that begin with `T`. -/
private def upperT : List (Text × Text) :=
  [(['T', 'H', 'O', 'R', 'N'], ['\u00de']), (['T', 'H', 'O', 'R', 'N', ';'], ['\u00de']),
   (['T', 'R', 'A', 'D', 'E', ';'], ['\u2122']), (['T', 'S', 'H', 'c', 'y', ';'], ['\u040b']),
   (['T', 'S', 'c', 'y', ';'], ['\u0426']), (['T', 'a', 'b', ';'], ['\u0009']),
   (['T', 'a', 'u', ';'], ['\u03a4']), (['T', 'c', 'a', 'r', 'o', 'n', ';'], ['\u0164']),
   (['T', 'c', 'e', 'd', 'i', 'l', ';'], ['\u0162']), (['T', 'c', 'y', ';'], ['\u0422']),
   (['T', 'f', 'r', ';'], [Char.ofNat 0x1d517]),
   (['T', 'h', 'e', 'r', 'e', 'f', 'o', 'r', 'e', ';'], ['\u2234']),
   (['T', 'h', 'e', 't', 'a', ';'], ['\u0398']),
   (['T', 'h', 'i', 'c', 'k', 'S', 'p', 'a', 'c', 'e', ';'], ['\u205f', '\u200a']),
   (['T', 'h', 'i', 'n', 'S', 'p', 'a', 'c', 'e', ';'], ['\u2009']),
   (['T', 'i', 'l', 'd', 'e', ';'], ['\u223c']),
   (['T', 'i', 'l', 'd', 'e', 'E', 'q', 'u', 'a', 'l', ';'], ['\u2243']),
   (['T', 'i', 'l', 'd', 'e', 'F', 'u', 'l', 'l', 'E', 'q', 'u', 'a', 'l', ';'], ['\u2245']),
   (['T', 'i', 'l', 'd', 'e', 'T', 'i', 'l', 'd', 'e', ';'], ['\u2248']),
   (['T', 'o', 'p', 'f', ';'], [Char.ofNat 0x1d54b]),
   (['T', 'r', 'i', 'p', 'l', 'e', 'D', 'o', 't', ';'], ['\u20db']),
   (['T', 's', 'c', 'r', ';'], [Char.ofNat 0x1d4af]),
   (['T', 's', 't', 'r', 'o', 'k', ';'], ['\u0166'])]

/-- Names that begin with `U`. -/
private def upperU : List (Text × Text) :=
  [(['U', 'a', 'c', 'u', 't', 'e'], ['\u00da']), (['U', 'a', 'c', 'u', 't', 'e', ';'], ['\u00da']),
   (['U', 'a', 'r', 'r', ';'], ['\u219f']),
   (['U', 'a', 'r', 'r', 'o', 'c', 'i', 'r', ';'], ['\u2949']),
   (['U', 'b', 'r', 'c', 'y', ';'], ['\u040e']), (['U', 'b', 'r', 'e', 'v', 'e', ';'], ['\u016c']),
   (['U', 'c', 'i', 'r', 'c'], ['\u00db']), (['U', 'c', 'i', 'r', 'c', ';'], ['\u00db']),
   (['U', 'c', 'y', ';'], ['\u0423']), (['U', 'd', 'b', 'l', 'a', 'c', ';'], ['\u0170']),
   (['U', 'f', 'r', ';'], [Char.ofNat 0x1d518]), (['U', 'g', 'r', 'a', 'v', 'e'], ['\u00d9']),
   (['U', 'g', 'r', 'a', 'v', 'e', ';'], ['\u00d9']), (['U', 'm', 'a', 'c', 'r', ';'], ['\u016a']),
   (['U', 'n', 'd', 'e', 'r', 'B', 'a', 'r', ';'], ['\u005f']),
   (['U', 'n', 'd', 'e', 'r', 'B', 'r', 'a', 'c', 'e', ';'], ['\u23df']),
   (['U', 'n', 'd', 'e', 'r', 'B', 'r', 'a', 'c', 'k', 'e', 't', ';'], ['\u23b5']),
   (['U', 'n', 'd', 'e', 'r', 'P', 'a', 'r', 'e', 'n', 't', 'h', 'e', 's', 'i', 's', ';'], ['\u23dd']),
   (['U', 'n', 'i', 'o', 'n', ';'], ['\u22c3']),
   (['U', 'n', 'i', 'o', 'n', 'P', 'l', 'u', 's', ';'], ['\u228e']),
   (['U', 'o', 'g', 'o', 'n', ';'], ['\u0172']), (['U', 'o', 'p', 'f', ';'], [Char.ofNat 0x1d54c]),
   (['U', 'p', 'A', 'r', 'r', 'o', 'w', ';'], ['\u2191']),
   (['U', 'p', 'A', 'r', 'r', 'o', 'w', 'B', 'a', 'r', ';'], ['\u2912']),
   (['U', 'p', 'A', 'r', 'r', 'o', 'w', 'D', 'o', 'w', 'n', 'A', 'r', 'r', 'o', 'w', ';'], ['\u21c5']),
   (['U', 'p', 'D', 'o', 'w', 'n', 'A', 'r', 'r', 'o', 'w', ';'], ['\u2195']),
   (['U', 'p', 'E', 'q', 'u', 'i', 'l', 'i', 'b', 'r', 'i', 'u', 'm', ';'], ['\u296e']),
   (['U', 'p', 'T', 'e', 'e', ';'], ['\u22a5']),
   (['U', 'p', 'T', 'e', 'e', 'A', 'r', 'r', 'o', 'w', ';'], ['\u21a5']),
   (['U', 'p', 'a', 'r', 'r', 'o', 'w', ';'], ['\u21d1']),
   (['U', 'p', 'd', 'o', 'w', 'n', 'a', 'r', 'r', 'o', 'w', ';'], ['\u21d5']),
   (['U', 'p', 'p', 'e', 'r', 'L', 'e', 'f', 't', 'A', 'r', 'r', 'o', 'w', ';'], ['\u2196']),
   (['U', 'p', 'p', 'e', 'r', 'R', 'i', 'g', 'h', 't', 'A', 'r', 'r', 'o', 'w', ';'], ['\u2197']),
   (['U', 'p', 's', 'i', ';'], ['\u03d2']), (['U', 'p', 's', 'i', 'l', 'o', 'n', ';'], ['\u03a5']),
   (['U', 'r', 'i', 'n', 'g', ';'], ['\u016e']), (['U', 's', 'c', 'r', ';'], [Char.ofNat 0x1d4b0]),
   (['U', 't', 'i', 'l', 'd', 'e', ';'], ['\u0168']), (['U', 'u', 'm', 'l'], ['\u00dc']),
   (['U', 'u', 'm', 'l', ';'], ['\u00dc'])]

/-- Names that begin with `V`. -/
private def upperV : List (Text × Text) :=
  [(['V', 'D', 'a', 's', 'h', ';'], ['\u22ab']), (['V', 'b', 'a', 'r', ';'], ['\u2aeb']),
   (['V', 'c', 'y', ';'], ['\u0412']), (['V', 'd', 'a', 's', 'h', ';'], ['\u22a9']),
   (['V', 'd', 'a', 's', 'h', 'l', ';'], ['\u2ae6']), (['V', 'e', 'e', ';'], ['\u22c1']),
   (['V', 'e', 'r', 'b', 'a', 'r', ';'], ['\u2016']), (['V', 'e', 'r', 't', ';'], ['\u2016']),
   (['V', 'e', 'r', 't', 'i', 'c', 'a', 'l', 'B', 'a', 'r', ';'], ['\u2223']),
   (['V', 'e', 'r', 't', 'i', 'c', 'a', 'l', 'L', 'i', 'n', 'e', ';'], ['\u007c']),
   (['V', 'e', 'r', 't', 'i', 'c', 'a', 'l', 'S', 'e', 'p', 'a', 'r', 'a', 't', 'o', 'r', ';'], ['\u2758']),
   (['V', 'e', 'r', 't', 'i', 'c', 'a', 'l', 'T', 'i', 'l', 'd', 'e', ';'], ['\u2240']),
   (['V', 'e', 'r', 'y', 'T', 'h', 'i', 'n', 'S', 'p', 'a', 'c', 'e', ';'], ['\u200a']),
   (['V', 'f', 'r', ';'], [Char.ofNat 0x1d519]), (['V', 'o', 'p', 'f', ';'], [Char.ofNat 0x1d54d]),
   (['V', 's', 'c', 'r', ';'], [Char.ofNat 0x1d4b1]),
   (['V', 'v', 'd', 'a', 's', 'h', ';'], ['\u22aa'])]

/-- Names that begin with `W`. -/
private def upperW : List (Text × Text) :=
  [(['W', 'c', 'i', 'r', 'c', ';'], ['\u0174']), (['W', 'e', 'd', 'g', 'e', ';'], ['\u22c0']),
   (['W', 'f', 'r', ';'], [Char.ofNat 0x1d51a]), (['W', 'o', 'p', 'f', ';'], [Char.ofNat 0x1d54e]),
   (['W', 's', 'c', 'r', ';'], [Char.ofNat 0x1d4b2])]

/-- Names that begin with `X`. -/
private def upperX : List (Text × Text) :=
  [(['X', 'f', 'r', ';'], [Char.ofNat 0x1d51b]), (['X', 'i', ';'], ['\u039e']),
   (['X', 'o', 'p', 'f', ';'], [Char.ofNat 0x1d54f]),
   (['X', 's', 'c', 'r', ';'], [Char.ofNat 0x1d4b3])]

/-- Names that begin with `Y`. -/
private def upperY : List (Text × Text) :=
  [(['Y', 'A', 'c', 'y', ';'], ['\u042f']), (['Y', 'I', 'c', 'y', ';'], ['\u0407']),
   (['Y', 'U', 'c', 'y', ';'], ['\u042e']), (['Y', 'a', 'c', 'u', 't', 'e'], ['\u00dd']),
   (['Y', 'a', 'c', 'u', 't', 'e', ';'], ['\u00dd']), (['Y', 'c', 'i', 'r', 'c', ';'], ['\u0176']),
   (['Y', 'c', 'y', ';'], ['\u042b']), (['Y', 'f', 'r', ';'], [Char.ofNat 0x1d51c]),
   (['Y', 'o', 'p', 'f', ';'], [Char.ofNat 0x1d550]),
   (['Y', 's', 'c', 'r', ';'], [Char.ofNat 0x1d4b4]), (['Y', 'u', 'm', 'l', ';'], ['\u0178'])]

/-- Names that begin with `Z`. -/
private def upperZ : List (Text × Text) :=
  [(['Z', 'H', 'c', 'y', ';'], ['\u0416']), (['Z', 'a', 'c', 'u', 't', 'e', ';'], ['\u0179']),
   (['Z', 'c', 'a', 'r', 'o', 'n', ';'], ['\u017d']), (['Z', 'c', 'y', ';'], ['\u0417']),
   (['Z', 'd', 'o', 't', ';'], ['\u017b']),
   (['Z', 'e', 'r', 'o', 'W', 'i', 'd', 't', 'h', 'S', 'p', 'a', 'c', 'e', ';'], ['\u200b']),
   (['Z', 'e', 't', 'a', ';'], ['\u0396']), (['Z', 'f', 'r', ';'], ['\u2128']),
   (['Z', 'o', 'p', 'f', ';'], ['\u2124']), (['Z', 's', 'c', 'r', ';'], [Char.ofNat 0x1d4b5])]

/-- Names that begin with `a`. -/
private def lowerA : List (Text × Text) :=
  [(['a', 'a', 'c', 'u', 't', 'e'], ['\u00e1']), (['a', 'a', 'c', 'u', 't', 'e', ';'], ['\u00e1']),
   (['a', 'b', 'r', 'e', 'v', 'e', ';'], ['\u0103']), (['a', 'c', ';'], ['\u223e']),
   (['a', 'c', 'E', ';'], ['\u223e', '\u0333']), (['a', 'c', 'd', ';'], ['\u223f']),
   (['a', 'c', 'i', 'r', 'c'], ['\u00e2']), (['a', 'c', 'i', 'r', 'c', ';'], ['\u00e2']),
   (['a', 'c', 'u', 't', 'e'], ['\u00b4']), (['a', 'c', 'u', 't', 'e', ';'], ['\u00b4']),
   (['a', 'c', 'y', ';'], ['\u0430']), (['a', 'e', 'l', 'i', 'g'], ['\u00e6']),
   (['a', 'e', 'l', 'i', 'g', ';'], ['\u00e6']), (['a', 'f', ';'], ['\u2061']),
   (['a', 'f', 'r', ';'], [Char.ofNat 0x1d51e]), (['a', 'g', 'r', 'a', 'v', 'e'], ['\u00e0']),
   (['a', 'g', 'r', 'a', 'v', 'e', ';'], ['\u00e0']),
   (['a', 'l', 'e', 'f', 's', 'y', 'm', ';'], ['\u2135']),
   (['a', 'l', 'e', 'p', 'h', ';'], ['\u2135']), (['a', 'l', 'p', 'h', 'a', ';'], ['\u03b1']),
   (['a', 'm', 'a', 'c', 'r', ';'], ['\u0101']), (['a', 'm', 'a', 'l', 'g', ';'], ['\u2a3f']),
   (['a', 'm', 'p'], ['\u0026']), (['a', 'm', 'p', ';'], ['\u0026']),
   (['a', 'n', 'd', ';'], ['\u2227']), (['a', 'n', 'd', 'a', 'n', 'd', ';'], ['\u2a55']),
   (['a', 'n', 'd', 'd', ';'], ['\u2a5c']),
   (['a', 'n', 'd', 's', 'l', 'o', 'p', 'e', ';'], ['\u2a58']),
   (['a', 'n', 'd', 'v', ';'], ['\u2a5a']), (['a', 'n', 'g', ';'], ['\u2220']),
   (['a', 'n', 'g', 'e', ';'], ['\u29a4']), (['a', 'n', 'g', 'l', 'e', ';'], ['\u2220']),
   (['a', 'n', 'g', 'm', 's', 'd', ';'], ['\u2221']),
   (['a', 'n', 'g', 'm', 's', 'd', 'a', 'a', ';'], ['\u29a8']),
   (['a', 'n', 'g', 'm', 's', 'd', 'a', 'b', ';'], ['\u29a9']),
   (['a', 'n', 'g', 'm', 's', 'd', 'a', 'c', ';'], ['\u29aa']),
   (['a', 'n', 'g', 'm', 's', 'd', 'a', 'd', ';'], ['\u29ab']),
   (['a', 'n', 'g', 'm', 's', 'd', 'a', 'e', ';'], ['\u29ac']),
   (['a', 'n', 'g', 'm', 's', 'd', 'a', 'f', ';'], ['\u29ad']),
   (['a', 'n', 'g', 'm', 's', 'd', 'a', 'g', ';'], ['\u29ae']),
   (['a', 'n', 'g', 'm', 's', 'd', 'a', 'h', ';'], ['\u29af']),
   (['a', 'n', 'g', 'r', 't', ';'], ['\u221f']),
   (['a', 'n', 'g', 'r', 't', 'v', 'b', ';'], ['\u22be']),
   (['a', 'n', 'g', 'r', 't', 'v', 'b', 'd', ';'], ['\u299d']),
   (['a', 'n', 'g', 's', 'p', 'h', ';'], ['\u2222']), (['a', 'n', 'g', 's', 't', ';'], ['\u00c5']),
   (['a', 'n', 'g', 'z', 'a', 'r', 'r', ';'], ['\u237c']),
   (['a', 'o', 'g', 'o', 'n', ';'], ['\u0105']), (['a', 'o', 'p', 'f', ';'], [Char.ofNat 0x1d552]),
   (['a', 'p', ';'], ['\u2248']), (['a', 'p', 'E', ';'], ['\u2a70']),
   (['a', 'p', 'a', 'c', 'i', 'r', ';'], ['\u2a6f']), (['a', 'p', 'e', ';'], ['\u224a']),
   (['a', 'p', 'i', 'd', ';'], ['\u224b']), (['a', 'p', 'o', 's', ';'], ['\u0027']),
   (['a', 'p', 'p', 'r', 'o', 'x', ';'], ['\u2248']),
   (['a', 'p', 'p', 'r', 'o', 'x', 'e', 'q', ';'], ['\u224a']),
   (['a', 'r', 'i', 'n', 'g'], ['\u00e5']), (['a', 'r', 'i', 'n', 'g', ';'], ['\u00e5']),
   (['a', 's', 'c', 'r', ';'], [Char.ofNat 0x1d4b6]), (['a', 's', 't', ';'], ['\u002a']),
   (['a', 's', 'y', 'm', 'p', ';'], ['\u2248']),
   (['a', 's', 'y', 'm', 'p', 'e', 'q', ';'], ['\u224d']),
   (['a', 't', 'i', 'l', 'd', 'e'], ['\u00e3']), (['a', 't', 'i', 'l', 'd', 'e', ';'], ['\u00e3']),
   (['a', 'u', 'm', 'l'], ['\u00e4']), (['a', 'u', 'm', 'l', ';'], ['\u00e4']),
   (['a', 'w', 'c', 'o', 'n', 'i', 'n', 't', ';'], ['\u2233']),
   (['a', 'w', 'i', 'n', 't', ';'], ['\u2a11'])]

/-- Names that begin with `b`. -/
private def lowerB : List (Text × Text) :=
  [(['b', 'N', 'o', 't', ';'], ['\u2aed']),
   (['b', 'a', 'c', 'k', 'c', 'o', 'n', 'g', ';'], ['\u224c']),
   (['b', 'a', 'c', 'k', 'e', 'p', 's', 'i', 'l', 'o', 'n', ';'], ['\u03f6']),
   (['b', 'a', 'c', 'k', 'p', 'r', 'i', 'm', 'e', ';'], ['\u2035']),
   (['b', 'a', 'c', 'k', 's', 'i', 'm', ';'], ['\u223d']),
   (['b', 'a', 'c', 'k', 's', 'i', 'm', 'e', 'q', ';'], ['\u22cd']),
   (['b', 'a', 'r', 'v', 'e', 'e', ';'], ['\u22bd']),
   (['b', 'a', 'r', 'w', 'e', 'd', ';'], ['\u2305']),
   (['b', 'a', 'r', 'w', 'e', 'd', 'g', 'e', ';'], ['\u2305']),
   (['b', 'b', 'r', 'k', ';'], ['\u23b5']),
   (['b', 'b', 'r', 'k', 't', 'b', 'r', 'k', ';'], ['\u23b6']),
   (['b', 'c', 'o', 'n', 'g', ';'], ['\u224c']), (['b', 'c', 'y', ';'], ['\u0431']),
   (['b', 'd', 'q', 'u', 'o', ';'], ['\u201e']), (['b', 'e', 'c', 'a', 'u', 's', ';'], ['\u2235']),
   (['b', 'e', 'c', 'a', 'u', 's', 'e', ';'], ['\u2235']),
   (['b', 'e', 'm', 'p', 't', 'y', 'v', ';'], ['\u29b0']),
   (['b', 'e', 'p', 's', 'i', ';'], ['\u03f6']), (['b', 'e', 'r', 'n', 'o', 'u', ';'], ['\u212c']),
   (['b', 'e', 't', 'a', ';'], ['\u03b2']), (['b', 'e', 't', 'h', ';'], ['\u2136']),
   (['b', 'e', 't', 'w', 'e', 'e', 'n', ';'], ['\u226c']),
   (['b', 'f', 'r', ';'], [Char.ofNat 0x1d51f]), (['b', 'i', 'g', 'c', 'a', 'p', ';'], ['\u22c2']),
   (['b', 'i', 'g', 'c', 'i', 'r', 'c', ';'], ['\u25ef']),
   (['b', 'i', 'g', 'c', 'u', 'p', ';'], ['\u22c3']),
   (['b', 'i', 'g', 'o', 'd', 'o', 't', ';'], ['\u2a00']),
   (['b', 'i', 'g', 'o', 'p', 'l', 'u', 's', ';'], ['\u2a01']),
   (['b', 'i', 'g', 'o', 't', 'i', 'm', 'e', 's', ';'], ['\u2a02']),
   (['b', 'i', 'g', 's', 'q', 'c', 'u', 'p', ';'], ['\u2a06']),
   (['b', 'i', 'g', 's', 't', 'a', 'r', ';'], ['\u2605']),
   (['b', 'i', 'g', 't', 'r', 'i', 'a', 'n', 'g', 'l', 'e', 'd', 'o', 'w', 'n', ';'], ['\u25bd']),
   (['b', 'i', 'g', 't', 'r', 'i', 'a', 'n', 'g', 'l', 'e', 'u', 'p', ';'], ['\u25b3']),
   (['b', 'i', 'g', 'u', 'p', 'l', 'u', 's', ';'], ['\u2a04']),
   (['b', 'i', 'g', 'v', 'e', 'e', ';'], ['\u22c1']),
   (['b', 'i', 'g', 'w', 'e', 'd', 'g', 'e', ';'], ['\u22c0']),
   (['b', 'k', 'a', 'r', 'o', 'w', ';'], ['\u290d']),
   (['b', 'l', 'a', 'c', 'k', 'l', 'o', 'z', 'e', 'n', 'g', 'e', ';'], ['\u29eb']),
   (['b', 'l', 'a', 'c', 'k', 's', 'q', 'u', 'a', 'r', 'e', ';'], ['\u25aa']),
   (['b', 'l', 'a', 'c', 'k', 't', 'r', 'i', 'a', 'n', 'g', 'l', 'e', ';'], ['\u25b4']),
   (['b', 'l', 'a', 'c', 'k', 't', 'r', 'i', 'a', 'n', 'g', 'l', 'e', 'd', 'o', 'w', 'n', ';'], ['\u25be']),
   (['b', 'l', 'a', 'c', 'k', 't', 'r', 'i', 'a', 'n', 'g', 'l', 'e', 'l', 'e', 'f', 't', ';'], ['\u25c2']),
   (['b', 'l', 'a', 'c', 'k', 't', 'r', 'i', 'a', 'n', 'g', 'l', 'e', 'r', 'i', 'g', 'h', 't', ';'], ['\u25b8']),
   (['b', 'l', 'a', 'n', 'k', ';'], ['\u2423']), (['b', 'l', 'k', '1', '2', ';'], ['\u2592']),
   (['b', 'l', 'k', '1', '4', ';'], ['\u2591']), (['b', 'l', 'k', '3', '4', ';'], ['\u2593']),
   (['b', 'l', 'o', 'c', 'k', ';'], ['\u2588']), (['b', 'n', 'e', ';'], ['\u003d', '\u20e5']),
   (['b', 'n', 'e', 'q', 'u', 'i', 'v', ';'], ['\u2261', '\u20e5']),
   (['b', 'n', 'o', 't', ';'], ['\u2310']), (['b', 'o', 'p', 'f', ';'], [Char.ofNat 0x1d553]),
   (['b', 'o', 't', ';'], ['\u22a5']), (['b', 'o', 't', 't', 'o', 'm', ';'], ['\u22a5']),
   (['b', 'o', 'w', 't', 'i', 'e', ';'], ['\u22c8']), (['b', 'o', 'x', 'D', 'L', ';'], ['\u2557']),
   (['b', 'o', 'x', 'D', 'R', ';'], ['\u2554']), (['b', 'o', 'x', 'D', 'l', ';'], ['\u2556']),
   (['b', 'o', 'x', 'D', 'r', ';'], ['\u2553']), (['b', 'o', 'x', 'H', ';'], ['\u2550']),
   (['b', 'o', 'x', 'H', 'D', ';'], ['\u2566']), (['b', 'o', 'x', 'H', 'U', ';'], ['\u2569']),
   (['b', 'o', 'x', 'H', 'd', ';'], ['\u2564']), (['b', 'o', 'x', 'H', 'u', ';'], ['\u2567']),
   (['b', 'o', 'x', 'U', 'L', ';'], ['\u255d']), (['b', 'o', 'x', 'U', 'R', ';'], ['\u255a']),
   (['b', 'o', 'x', 'U', 'l', ';'], ['\u255c']), (['b', 'o', 'x', 'U', 'r', ';'], ['\u2559']),
   (['b', 'o', 'x', 'V', ';'], ['\u2551']), (['b', 'o', 'x', 'V', 'H', ';'], ['\u256c']),
   (['b', 'o', 'x', 'V', 'L', ';'], ['\u2563']), (['b', 'o', 'x', 'V', 'R', ';'], ['\u2560']),
   (['b', 'o', 'x', 'V', 'h', ';'], ['\u256b']), (['b', 'o', 'x', 'V', 'l', ';'], ['\u2562']),
   (['b', 'o', 'x', 'V', 'r', ';'], ['\u255f']), (['b', 'o', 'x', 'b', 'o', 'x', ';'], ['\u29c9']),
   (['b', 'o', 'x', 'd', 'L', ';'], ['\u2555']), (['b', 'o', 'x', 'd', 'R', ';'], ['\u2552']),
   (['b', 'o', 'x', 'd', 'l', ';'], ['\u2510']), (['b', 'o', 'x', 'd', 'r', ';'], ['\u250c']),
   (['b', 'o', 'x', 'h', ';'], ['\u2500']), (['b', 'o', 'x', 'h', 'D', ';'], ['\u2565']),
   (['b', 'o', 'x', 'h', 'U', ';'], ['\u2568']), (['b', 'o', 'x', 'h', 'd', ';'], ['\u252c']),
   (['b', 'o', 'x', 'h', 'u', ';'], ['\u2534']),
   (['b', 'o', 'x', 'm', 'i', 'n', 'u', 's', ';'], ['\u229f']),
   (['b', 'o', 'x', 'p', 'l', 'u', 's', ';'], ['\u229e']),
   (['b', 'o', 'x', 't', 'i', 'm', 'e', 's', ';'], ['\u22a0']),
   (['b', 'o', 'x', 'u', 'L', ';'], ['\u255b']), (['b', 'o', 'x', 'u', 'R', ';'], ['\u2558']),
   (['b', 'o', 'x', 'u', 'l', ';'], ['\u2518']), (['b', 'o', 'x', 'u', 'r', ';'], ['\u2514']),
   (['b', 'o', 'x', 'v', ';'], ['\u2502']), (['b', 'o', 'x', 'v', 'H', ';'], ['\u256a']),
   (['b', 'o', 'x', 'v', 'L', ';'], ['\u2561']), (['b', 'o', 'x', 'v', 'R', ';'], ['\u255e']),
   (['b', 'o', 'x', 'v', 'h', ';'], ['\u253c']), (['b', 'o', 'x', 'v', 'l', ';'], ['\u2524']),
   (['b', 'o', 'x', 'v', 'r', ';'], ['\u251c']), (['b', 'p', 'r', 'i', 'm', 'e', ';'], ['\u2035']),
   (['b', 'r', 'e', 'v', 'e', ';'], ['\u02d8']), (['b', 'r', 'v', 'b', 'a', 'r'], ['\u00a6']),
   (['b', 'r', 'v', 'b', 'a', 'r', ';'], ['\u00a6']),
   (['b', 's', 'c', 'r', ';'], [Char.ofNat 0x1d4b7]), (['b', 's', 'e', 'm', 'i', ';'], ['\u204f']),
   (['b', 's', 'i', 'm', ';'], ['\u223d']), (['b', 's', 'i', 'm', 'e', ';'], ['\u22cd']),
   (['b', 's', 'o', 'l', ';'], ['\u005c']), (['b', 's', 'o', 'l', 'b', ';'], ['\u29c5']),
   (['b', 's', 'o', 'l', 'h', 's', 'u', 'b', ';'], ['\u27c8']),
   (['b', 'u', 'l', 'l', ';'], ['\u2022']), (['b', 'u', 'l', 'l', 'e', 't', ';'], ['\u2022']),
   (['b', 'u', 'm', 'p', ';'], ['\u224e']), (['b', 'u', 'm', 'p', 'E', ';'], ['\u2aae']),
   (['b', 'u', 'm', 'p', 'e', ';'], ['\u224f']), (['b', 'u', 'm', 'p', 'e', 'q', ';'], ['\u224f'])]

/-- Names that begin with `c`. -/
private def lowerC : List (Text × Text) :=
  [(['c', 'a', 'c', 'u', 't', 'e', ';'], ['\u0107']), (['c', 'a', 'p', ';'], ['\u2229']),
   (['c', 'a', 'p', 'a', 'n', 'd', ';'], ['\u2a44']),
   (['c', 'a', 'p', 'b', 'r', 'c', 'u', 'p', ';'], ['\u2a49']),
   (['c', 'a', 'p', 'c', 'a', 'p', ';'], ['\u2a4b']),
   (['c', 'a', 'p', 'c', 'u', 'p', ';'], ['\u2a47']),
   (['c', 'a', 'p', 'd', 'o', 't', ';'], ['\u2a40']),
   (['c', 'a', 'p', 's', ';'], ['\u2229', '\ufe00']), (['c', 'a', 'r', 'e', 't', ';'], ['\u2041']),
   (['c', 'a', 'r', 'o', 'n', ';'], ['\u02c7']), (['c', 'c', 'a', 'p', 's', ';'], ['\u2a4d']),
   (['c', 'c', 'a', 'r', 'o', 'n', ';'], ['\u010d']), (['c', 'c', 'e', 'd', 'i', 'l'], ['\u00e7']),
   (['c', 'c', 'e', 'd', 'i', 'l', ';'], ['\u00e7']), (['c', 'c', 'i', 'r', 'c', ';'], ['\u0109']),
   (['c', 'c', 'u', 'p', 's', ';'], ['\u2a4c']),
   (['c', 'c', 'u', 'p', 's', 's', 'm', ';'], ['\u2a50']), (['c', 'd', 'o', 't', ';'], ['\u010b']),
   (['c', 'e', 'd', 'i', 'l'], ['\u00b8']), (['c', 'e', 'd', 'i', 'l', ';'], ['\u00b8']),
   (['c', 'e', 'm', 'p', 't', 'y', 'v', ';'], ['\u29b2']), (['c', 'e', 'n', 't'], ['\u00a2']),
   (['c', 'e', 'n', 't', ';'], ['\u00a2']),
   (['c', 'e', 'n', 't', 'e', 'r', 'd', 'o', 't', ';'], ['\u00b7']),
   (['c', 'f', 'r', ';'], [Char.ofNat 0x1d520]), (['c', 'h', 'c', 'y', ';'], ['\u0447']),
   (['c', 'h', 'e', 'c', 'k', ';'], ['\u2713']),
   (['c', 'h', 'e', 'c', 'k', 'm', 'a', 'r', 'k', ';'], ['\u2713']),
   (['c', 'h', 'i', ';'], ['\u03c7']), (['c', 'i', 'r', ';'], ['\u25cb']),
   (['c', 'i', 'r', 'E', ';'], ['\u29c3']), (['c', 'i', 'r', 'c', ';'], ['\u02c6']),
   (['c', 'i', 'r', 'c', 'e', 'q', ';'], ['\u2257']),
   (['c', 'i', 'r', 'c', 'l', 'e', 'a', 'r', 'r', 'o', 'w', 'l', 'e', 'f', 't', ';'], ['\u21ba']),
   (['c', 'i', 'r', 'c', 'l', 'e', 'a', 'r', 'r', 'o', 'w', 'r', 'i', 'g', 'h', 't', ';'], ['\u21bb']),
   (['c', 'i', 'r', 'c', 'l', 'e', 'd', 'R', ';'], ['\u00ae']),
   (['c', 'i', 'r', 'c', 'l', 'e', 'd', 'S', ';'], ['\u24c8']),
   (['c', 'i', 'r', 'c', 'l', 'e', 'd', 'a', 's', 't', ';'], ['\u229b']),
   (['c', 'i', 'r', 'c', 'l', 'e', 'd', 'c', 'i', 'r', 'c', ';'], ['\u229a']),
   (['c', 'i', 'r', 'c', 'l', 'e', 'd', 'd', 'a', 's', 'h', ';'], ['\u229d']),
   (['c', 'i', 'r', 'e', ';'], ['\u2257']),
   (['c', 'i', 'r', 'f', 'n', 'i', 'n', 't', ';'], ['\u2a10']),
   (['c', 'i', 'r', 'm', 'i', 'd', ';'], ['\u2aef']),
   (['c', 'i', 'r', 's', 'c', 'i', 'r', ';'], ['\u29c2']),
   (['c', 'l', 'u', 'b', 's', ';'], ['\u2663']),
   (['c', 'l', 'u', 'b', 's', 'u', 'i', 't', ';'], ['\u2663']),
   (['c', 'o', 'l', 'o', 'n', ';'], ['\u003a']), (['c', 'o', 'l', 'o', 'n', 'e', ';'], ['\u2254']),
   (['c', 'o', 'l', 'o', 'n', 'e', 'q', ';'], ['\u2254']),
   (['c', 'o', 'm', 'm', 'a', ';'], ['\u002c']), (['c', 'o', 'm', 'm', 'a', 't', ';'], ['\u0040']),
   (['c', 'o', 'm', 'p', ';'], ['\u2201']), (['c', 'o', 'm', 'p', 'f', 'n', ';'], ['\u2218']),
   (['c', 'o', 'm', 'p', 'l', 'e', 'm', 'e', 'n', 't', ';'], ['\u2201']),
   (['c', 'o', 'm', 'p', 'l', 'e', 'x', 'e', 's', ';'], ['\u2102']),
   (['c', 'o', 'n', 'g', ';'], ['\u2245']), (['c', 'o', 'n', 'g', 'd', 'o', 't', ';'], ['\u2a6d']),
   (['c', 'o', 'n', 'i', 'n', 't', ';'], ['\u222e']),
   (['c', 'o', 'p', 'f', ';'], [Char.ofNat 0x1d554]),
   (['c', 'o', 'p', 'r', 'o', 'd', ';'], ['\u2210']), (['c', 'o', 'p', 'y'], ['\u00a9']),
   (['c', 'o', 'p', 'y', ';'], ['\u00a9']), (['c', 'o', 'p', 'y', 's', 'r', ';'], ['\u2117']),
   (['c', 'r', 'a', 'r', 'r', ';'], ['\u21b5']), (['c', 'r', 'o', 's', 's', ';'], ['\u2717']),
   (['c', 's', 'c', 'r', ';'], [Char.ofNat 0x1d4b8]), (['c', 's', 'u', 'b', ';'], ['\u2acf']),
   (['c', 's', 'u', 'b', 'e', ';'], ['\u2ad1']), (['c', 's', 'u', 'p', ';'], ['\u2ad0']),
   (['c', 's', 'u', 'p', 'e', ';'], ['\u2ad2']), (['c', 't', 'd', 'o', 't', ';'], ['\u22ef']),
   (['c', 'u', 'd', 'a', 'r', 'r', 'l', ';'], ['\u2938']),
   (['c', 'u', 'd', 'a', 'r', 'r', 'r', ';'], ['\u2935']),
   (['c', 'u', 'e', 'p', 'r', ';'], ['\u22de']), (['c', 'u', 'e', 's', 'c', ';'], ['\u22df']),
   (['c', 'u', 'l', 'a', 'r', 'r', ';'], ['\u21b6']),
   (['c', 'u', 'l', 'a', 'r', 'r', 'p', ';'], ['\u293d']), (['c', 'u', 'p', ';'], ['\u222a']),
   (['c', 'u', 'p', 'b', 'r', 'c', 'a', 'p', ';'], ['\u2a48']),
   (['c', 'u', 'p', 'c', 'a', 'p', ';'], ['\u2a46']),
   (['c', 'u', 'p', 'c', 'u', 'p', ';'], ['\u2a4a']),
   (['c', 'u', 'p', 'd', 'o', 't', ';'], ['\u228d']), (['c', 'u', 'p', 'o', 'r', ';'], ['\u2a45']),
   (['c', 'u', 'p', 's', ';'], ['\u222a', '\ufe00']),
   (['c', 'u', 'r', 'a', 'r', 'r', ';'], ['\u21b7']),
   (['c', 'u', 'r', 'a', 'r', 'r', 'm', ';'], ['\u293c']),
   (['c', 'u', 'r', 'l', 'y', 'e', 'q', 'p', 'r', 'e', 'c', ';'], ['\u22de']),
   (['c', 'u', 'r', 'l', 'y', 'e', 'q', 's', 'u', 'c', 'c', ';'], ['\u22df']),
   (['c', 'u', 'r', 'l', 'y', 'v', 'e', 'e', ';'], ['\u22ce']),
   (['c', 'u', 'r', 'l', 'y', 'w', 'e', 'd', 'g', 'e', ';'], ['\u22cf']),
   (['c', 'u', 'r', 'r', 'e', 'n'], ['\u00a4']), (['c', 'u', 'r', 'r', 'e', 'n', ';'], ['\u00a4']),
   (['c', 'u', 'r', 'v', 'e', 'a', 'r', 'r', 'o', 'w', 'l', 'e', 'f', 't', ';'], ['\u21b6']),
   (['c', 'u', 'r', 'v', 'e', 'a', 'r', 'r', 'o', 'w', 'r', 'i', 'g', 'h', 't', ';'], ['\u21b7']),
   (['c', 'u', 'v', 'e', 'e', ';'], ['\u22ce']), (['c', 'u', 'w', 'e', 'd', ';'], ['\u22cf']),
   (['c', 'w', 'c', 'o', 'n', 'i', 'n', 't', ';'], ['\u2232']),
   (['c', 'w', 'i', 'n', 't', ';'], ['\u2231']), (['c', 'y', 'l', 'c', 't', 'y', ';'], ['\u232d'])]

/-- Names that begin with `d`. -/
private def lowerD : List (Text × Text) :=
  [(['d', 'A', 'r', 'r', ';'], ['\u21d3']), (['d', 'H', 'a', 'r', ';'], ['\u2965']),
   (['d', 'a', 'g', 'g', 'e', 'r', ';'], ['\u2020']),
   (['d', 'a', 'l', 'e', 't', 'h', ';'], ['\u2138']), (['d', 'a', 'r', 'r', ';'], ['\u2193']),
   (['d', 'a', 's', 'h', ';'], ['\u2010']), (['d', 'a', 's', 'h', 'v', ';'], ['\u22a3']),
   (['d', 'b', 'k', 'a', 'r', 'o', 'w', ';'], ['\u290f']),
   (['d', 'b', 'l', 'a', 'c', ';'], ['\u02dd']), (['d', 'c', 'a', 'r', 'o', 'n', ';'], ['\u010f']),
   (['d', 'c', 'y', ';'], ['\u0434']), (['d', 'd', ';'], ['\u2146']),
   (['d', 'd', 'a', 'g', 'g', 'e', 'r', ';'], ['\u2021']),
   (['d', 'd', 'a', 'r', 'r', ';'], ['\u21ca']),
   (['d', 'd', 'o', 't', 's', 'e', 'q', ';'], ['\u2a77']), (['d', 'e', 'g'], ['\u00b0']),
   (['d', 'e', 'g', ';'], ['\u00b0']), (['d', 'e', 'l', 't', 'a', ';'], ['\u03b4']),
   (['d', 'e', 'm', 'p', 't', 'y', 'v', ';'], ['\u29b1']),
   (['d', 'f', 'i', 's', 'h', 't', ';'], ['\u297f']), (['d', 'f', 'r', ';'], [Char.ofNat 0x1d521]),
   (['d', 'h', 'a', 'r', 'l', ';'], ['\u21c3']), (['d', 'h', 'a', 'r', 'r', ';'], ['\u21c2']),
   (['d', 'i', 'a', 'm', ';'], ['\u22c4']), (['d', 'i', 'a', 'm', 'o', 'n', 'd', ';'], ['\u22c4']),
   (['d', 'i', 'a', 'm', 'o', 'n', 'd', 's', 'u', 'i', 't', ';'], ['\u2666']),
   (['d', 'i', 'a', 'm', 's', ';'], ['\u2666']), (['d', 'i', 'e', ';'], ['\u00a8']),
   (['d', 'i', 'g', 'a', 'm', 'm', 'a', ';'], ['\u03dd']),
   (['d', 'i', 's', 'i', 'n', ';'], ['\u22f2']), (['d', 'i', 'v', ';'], ['\u00f7']),
   (['d', 'i', 'v', 'i', 'd', 'e'], ['\u00f7']), (['d', 'i', 'v', 'i', 'd', 'e', ';'], ['\u00f7']),
   (['d', 'i', 'v', 'i', 'd', 'e', 'o', 'n', 't', 'i', 'm', 'e', 's', ';'], ['\u22c7']),
   (['d', 'i', 'v', 'o', 'n', 'x', ';'], ['\u22c7']), (['d', 'j', 'c', 'y', ';'], ['\u0452']),
   (['d', 'l', 'c', 'o', 'r', 'n', ';'], ['\u231e']),
   (['d', 'l', 'c', 'r', 'o', 'p', ';'], ['\u230d']),
   (['d', 'o', 'l', 'l', 'a', 'r', ';'], ['\u0024']),
   (['d', 'o', 'p', 'f', ';'], [Char.ofNat 0x1d555]), (['d', 'o', 't', ';'], ['\u02d9']),
   (['d', 'o', 't', 'e', 'q', ';'], ['\u2250']),
   (['d', 'o', 't', 'e', 'q', 'd', 'o', 't', ';'], ['\u2251']),
   (['d', 'o', 't', 'm', 'i', 'n', 'u', 's', ';'], ['\u2238']),
   (['d', 'o', 't', 'p', 'l', 'u', 's', ';'], ['\u2214']),
   (['d', 'o', 't', 's', 'q', 'u', 'a', 'r', 'e', ';'], ['\u22a1']),
   (['d', 'o', 'u', 'b', 'l', 'e', 'b', 'a', 'r', 'w', 'e', 'd', 'g', 'e', ';'], ['\u2306']),
   (['d', 'o', 'w', 'n', 'a', 'r', 'r', 'o', 'w', ';'], ['\u2193']),
   (['d', 'o', 'w', 'n', 'd', 'o', 'w', 'n', 'a', 'r', 'r', 'o', 'w', 's', ';'], ['\u21ca']),
   (['d', 'o', 'w', 'n', 'h', 'a', 'r', 'p', 'o', 'o', 'n', 'l', 'e', 'f', 't', ';'], ['\u21c3']),
   (['d', 'o', 'w', 'n', 'h', 'a', 'r', 'p', 'o', 'o', 'n', 'r', 'i', 'g', 'h', 't', ';'], ['\u21c2']),
   (['d', 'r', 'b', 'k', 'a', 'r', 'o', 'w', ';'], ['\u2910']),
   (['d', 'r', 'c', 'o', 'r', 'n', ';'], ['\u231f']),
   (['d', 'r', 'c', 'r', 'o', 'p', ';'], ['\u230c']),
   (['d', 's', 'c', 'r', ';'], [Char.ofNat 0x1d4b9]), (['d', 's', 'c', 'y', ';'], ['\u0455']),
   (['d', 's', 'o', 'l', ';'], ['\u29f6']), (['d', 's', 't', 'r', 'o', 'k', ';'], ['\u0111']),
   (['d', 't', 'd', 'o', 't', ';'], ['\u22f1']), (['d', 't', 'r', 'i', ';'], ['\u25bf']),
   (['d', 't', 'r', 'i', 'f', ';'], ['\u25be']), (['d', 'u', 'a', 'r', 'r', ';'], ['\u21f5']),
   (['d', 'u', 'h', 'a', 'r', ';'], ['\u296f']),
   (['d', 'w', 'a', 'n', 'g', 'l', 'e', ';'], ['\u29a6']), (['d', 'z', 'c', 'y', ';'], ['\u045f']),
   (['d', 'z', 'i', 'g', 'r', 'a', 'r', 'r', ';'], ['\u27ff'])]

/-- Names that begin with `e`. -/
private def lowerE : List (Text × Text) :=
  [(['e', 'D', 'D', 'o', 't', ';'], ['\u2a77']), (['e', 'D', 'o', 't', ';'], ['\u2251']),
   (['e', 'a', 'c', 'u', 't', 'e'], ['\u00e9']), (['e', 'a', 'c', 'u', 't', 'e', ';'], ['\u00e9']),
   (['e', 'a', 's', 't', 'e', 'r', ';'], ['\u2a6e']),
   (['e', 'c', 'a', 'r', 'o', 'n', ';'], ['\u011b']), (['e', 'c', 'i', 'r', ';'], ['\u2256']),
   (['e', 'c', 'i', 'r', 'c'], ['\u00ea']), (['e', 'c', 'i', 'r', 'c', ';'], ['\u00ea']),
   (['e', 'c', 'o', 'l', 'o', 'n', ';'], ['\u2255']), (['e', 'c', 'y', ';'], ['\u044d']),
   (['e', 'd', 'o', 't', ';'], ['\u0117']), (['e', 'e', ';'], ['\u2147']),
   (['e', 'f', 'D', 'o', 't', ';'], ['\u2252']), (['e', 'f', 'r', ';'], [Char.ofNat 0x1d522]),
   (['e', 'g', ';'], ['\u2a9a']), (['e', 'g', 'r', 'a', 'v', 'e'], ['\u00e8']),
   (['e', 'g', 'r', 'a', 'v', 'e', ';'], ['\u00e8']), (['e', 'g', 's', ';'], ['\u2a96']),
   (['e', 'g', 's', 'd', 'o', 't', ';'], ['\u2a98']), (['e', 'l', ';'], ['\u2a99']),
   (['e', 'l', 'i', 'n', 't', 'e', 'r', 's', ';'], ['\u23e7']), (['e', 'l', 'l', ';'], ['\u2113']),
   (['e', 'l', 's', ';'], ['\u2a95']), (['e', 'l', 's', 'd', 'o', 't', ';'], ['\u2a97']),
   (['e', 'm', 'a', 'c', 'r', ';'], ['\u0113']), (['e', 'm', 'p', 't', 'y', ';'], ['\u2205']),
   (['e', 'm', 'p', 't', 'y', 's', 'e', 't', ';'], ['\u2205']),
   (['e', 'm', 'p', 't', 'y', 'v', ';'], ['\u2205']),
   (['e', 'm', 's', 'p', '1', '3', ';'], ['\u2004']),
   (['e', 'm', 's', 'p', '1', '4', ';'], ['\u2005']), (['e', 'm', 's', 'p', ';'], ['\u2003']),
   (['e', 'n', 'g', ';'], ['\u014b']), (['e', 'n', 's', 'p', ';'], ['\u2002']),
   (['e', 'o', 'g', 'o', 'n', ';'], ['\u0119']), (['e', 'o', 'p', 'f', ';'], [Char.ofNat 0x1d556]),
   (['e', 'p', 'a', 'r', ';'], ['\u22d5']), (['e', 'p', 'a', 'r', 's', 'l', ';'], ['\u29e3']),
   (['e', 'p', 'l', 'u', 's', ';'], ['\u2a71']), (['e', 'p', 's', 'i', ';'], ['\u03b5']),
   (['e', 'p', 's', 'i', 'l', 'o', 'n', ';'], ['\u03b5']),
   (['e', 'p', 's', 'i', 'v', ';'], ['\u03f5']), (['e', 'q', 'c', 'i', 'r', 'c', ';'], ['\u2256']),
   (['e', 'q', 'c', 'o', 'l', 'o', 'n', ';'], ['\u2255']),
   (['e', 'q', 's', 'i', 'm', ';'], ['\u2242']),
   (['e', 'q', 's', 'l', 'a', 'n', 't', 'g', 't', 'r', ';'], ['\u2a96']),
   (['e', 'q', 's', 'l', 'a', 'n', 't', 'l', 'e', 's', 's', ';'], ['\u2a95']),
   (['e', 'q', 'u', 'a', 'l', 's', ';'], ['\u003d']),
   (['e', 'q', 'u', 'e', 's', 't', ';'], ['\u225f']), (['e', 'q', 'u', 'i', 'v', ';'], ['\u2261']),
   (['e', 'q', 'u', 'i', 'v', 'D', 'D', ';'], ['\u2a78']),
   (['e', 'q', 'v', 'p', 'a', 'r', 's', 'l', ';'], ['\u29e5']),
   (['e', 'r', 'D', 'o', 't', ';'], ['\u2253']), (['e', 'r', 'a', 'r', 'r', ';'], ['\u2971']),
   (['e', 's', 'c', 'r', ';'], ['\u212f']), (['e', 's', 'd', 'o', 't', ';'], ['\u2250']),
   (['e', 's', 'i', 'm', ';'], ['\u2242']), (['e', 't', 'a', ';'], ['\u03b7']),
   (['e', 't', 'h'], ['\u00f0']), (['e', 't', 'h', ';'], ['\u00f0']),
   (['e', 'u', 'm', 'l'], ['\u00eb']), (['e', 'u', 'm', 'l', ';'], ['\u00eb']),
   (['e', 'u', 'r', 'o', ';'], ['\u20ac']), (['e', 'x', 'c', 'l', ';'], ['\u0021']),
   (['e', 'x', 'i', 's', 't', ';'], ['\u2203']),
   (['e', 'x', 'p', 'e', 'c', 't', 'a', 't', 'i', 'o', 'n', ';'], ['\u2130']),
   (['e', 'x', 'p', 'o', 'n', 'e', 'n', 't', 'i', 'a', 'l', 'e', ';'], ['\u2147'])]

/-- Names that begin with `f`. -/
private def lowerF : List (Text × Text) :=
  [(['f', 'a', 'l', 'l', 'i', 'n', 'g', 'd', 'o', 't', 's', 'e', 'q', ';'], ['\u2252']),
   (['f', 'c', 'y', ';'], ['\u0444']), (['f', 'e', 'm', 'a', 'l', 'e', ';'], ['\u2640']),
   (['f', 'f', 'i', 'l', 'i', 'g', ';'], ['\ufb03']), (['f', 'f', 'l', 'i', 'g', ';'], ['\ufb00']),
   (['f', 'f', 'l', 'l', 'i', 'g', ';'], ['\ufb04']), (['f', 'f', 'r', ';'], [Char.ofNat 0x1d523]),
   (['f', 'i', 'l', 'i', 'g', ';'], ['\ufb01']),
   (['f', 'j', 'l', 'i', 'g', ';'], ['\u0066', '\u006a']), (['f', 'l', 'a', 't', ';'], ['\u266d']),
   (['f', 'l', 'l', 'i', 'g', ';'], ['\ufb02']), (['f', 'l', 't', 'n', 's', ';'], ['\u25b1']),
   (['f', 'n', 'o', 'f', ';'], ['\u0192']), (['f', 'o', 'p', 'f', ';'], [Char.ofNat 0x1d557]),
   (['f', 'o', 'r', 'a', 'l', 'l', ';'], ['\u2200']), (['f', 'o', 'r', 'k', ';'], ['\u22d4']),
   (['f', 'o', 'r', 'k', 'v', ';'], ['\u2ad9']),
   (['f', 'p', 'a', 'r', 't', 'i', 'n', 't', ';'], ['\u2a0d']),
   (['f', 'r', 'a', 'c', '1', '2'], ['\u00bd']), (['f', 'r', 'a', 'c', '1', '2', ';'], ['\u00bd']),
   (['f', 'r', 'a', 'c', '1', '3', ';'], ['\u2153']), (['f', 'r', 'a', 'c', '1', '4'], ['\u00bc']),
   (['f', 'r', 'a', 'c', '1', '4', ';'], ['\u00bc']),
   (['f', 'r', 'a', 'c', '1', '5', ';'], ['\u2155']),
   (['f', 'r', 'a', 'c', '1', '6', ';'], ['\u2159']),
   (['f', 'r', 'a', 'c', '1', '8', ';'], ['\u215b']),
   (['f', 'r', 'a', 'c', '2', '3', ';'], ['\u2154']),
   (['f', 'r', 'a', 'c', '2', '5', ';'], ['\u2156']), (['f', 'r', 'a', 'c', '3', '4'], ['\u00be']),
   (['f', 'r', 'a', 'c', '3', '4', ';'], ['\u00be']),
   (['f', 'r', 'a', 'c', '3', '5', ';'], ['\u2157']),
   (['f', 'r', 'a', 'c', '3', '8', ';'], ['\u215c']),
   (['f', 'r', 'a', 'c', '4', '5', ';'], ['\u2158']),
   (['f', 'r', 'a', 'c', '5', '6', ';'], ['\u215a']),
   (['f', 'r', 'a', 'c', '5', '8', ';'], ['\u215d']),
   (['f', 'r', 'a', 'c', '7', '8', ';'], ['\u215e']), (['f', 'r', 'a', 's', 'l', ';'], ['\u2044']),
   (['f', 'r', 'o', 'w', 'n', ';'], ['\u2322']), (['f', 's', 'c', 'r', ';'], [Char.ofNat 0x1d4bb])]

/-- Names that begin with `g`. -/
private def lowerG : List (Text × Text) :=
  [(['g', 'E', ';'], ['\u2267']), (['g', 'E', 'l', ';'], ['\u2a8c']),
   (['g', 'a', 'c', 'u', 't', 'e', ';'], ['\u01f5']), (['g', 'a', 'm', 'm', 'a', ';'], ['\u03b3']),
   (['g', 'a', 'm', 'm', 'a', 'd', ';'], ['\u03dd']), (['g', 'a', 'p', ';'], ['\u2a86']),
   (['g', 'b', 'r', 'e', 'v', 'e', ';'], ['\u011f']), (['g', 'c', 'i', 'r', 'c', ';'], ['\u011d']),
   (['g', 'c', 'y', ';'], ['\u0433']), (['g', 'd', 'o', 't', ';'], ['\u0121']),
   (['g', 'e', ';'], ['\u2265']), (['g', 'e', 'l', ';'], ['\u22db']),
   (['g', 'e', 'q', ';'], ['\u2265']), (['g', 'e', 'q', 'q', ';'], ['\u2267']),
   (['g', 'e', 'q', 's', 'l', 'a', 'n', 't', ';'], ['\u2a7e']), (['g', 'e', 's', ';'], ['\u2a7e']),
   (['g', 'e', 's', 'c', 'c', ';'], ['\u2aa9']), (['g', 'e', 's', 'd', 'o', 't', ';'], ['\u2a80']),
   (['g', 'e', 's', 'd', 'o', 't', 'o', ';'], ['\u2a82']),
   (['g', 'e', 's', 'd', 'o', 't', 'o', 'l', ';'], ['\u2a84']),
   (['g', 'e', 's', 'l', ';'], ['\u22db', '\ufe00']),
   (['g', 'e', 's', 'l', 'e', 's', ';'], ['\u2a94']), (['g', 'f', 'r', ';'], [Char.ofNat 0x1d524]),
   (['g', 'g', ';'], ['\u226b']), (['g', 'g', 'g', ';'], ['\u22d9']),
   (['g', 'i', 'm', 'e', 'l', ';'], ['\u2137']), (['g', 'j', 'c', 'y', ';'], ['\u0453']),
   (['g', 'l', ';'], ['\u2277']), (['g', 'l', 'E', ';'], ['\u2a92']),
   (['g', 'l', 'a', ';'], ['\u2aa5']), (['g', 'l', 'j', ';'], ['\u2aa4']),
   (['g', 'n', 'E', ';'], ['\u2269']), (['g', 'n', 'a', 'p', ';'], ['\u2a8a']),
   (['g', 'n', 'a', 'p', 'p', 'r', 'o', 'x', ';'], ['\u2a8a']), (['g', 'n', 'e', ';'], ['\u2a88']),
   (['g', 'n', 'e', 'q', ';'], ['\u2a88']), (['g', 'n', 'e', 'q', 'q', ';'], ['\u2269']),
   (['g', 'n', 's', 'i', 'm', ';'], ['\u22e7']), (['g', 'o', 'p', 'f', ';'], [Char.ofNat 0x1d558]),
   (['g', 'r', 'a', 'v', 'e', ';'], ['\u0060']), (['g', 's', 'c', 'r', ';'], ['\u210a']),
   (['g', 's', 'i', 'm', ';'], ['\u2273']), (['g', 's', 'i', 'm', 'e', ';'], ['\u2a8e']),
   (['g', 's', 'i', 'm', 'l', ';'], ['\u2a90']), (['g', 't'], ['\u003e']),
   (['g', 't', ';'], ['\u003e']), (['g', 't', 'c', 'c', ';'], ['\u2aa7']),
   (['g', 't', 'c', 'i', 'r', ';'], ['\u2a7a']), (['g', 't', 'd', 'o', 't', ';'], ['\u22d7']),
   (['g', 't', 'l', 'P', 'a', 'r', ';'], ['\u2995']),
   (['g', 't', 'q', 'u', 'e', 's', 't', ';'], ['\u2a7c']),
   (['g', 't', 'r', 'a', 'p', 'p', 'r', 'o', 'x', ';'], ['\u2a86']),
   (['g', 't', 'r', 'a', 'r', 'r', ';'], ['\u2978']),
   (['g', 't', 'r', 'd', 'o', 't', ';'], ['\u22d7']),
   (['g', 't', 'r', 'e', 'q', 'l', 'e', 's', 's', ';'], ['\u22db']),
   (['g', 't', 'r', 'e', 'q', 'q', 'l', 'e', 's', 's', ';'], ['\u2a8c']),
   (['g', 't', 'r', 'l', 'e', 's', 's', ';'], ['\u2277']),
   (['g', 't', 'r', 's', 'i', 'm', ';'], ['\u2273']),
   (['g', 'v', 'e', 'r', 't', 'n', 'e', 'q', 'q', ';'], ['\u2269', '\ufe00']),
   (['g', 'v', 'n', 'E', ';'], ['\u2269', '\ufe00'])]

/-- Names that begin with `h`. -/
private def lowerH : List (Text × Text) :=
  [(['h', 'A', 'r', 'r', ';'], ['\u21d4']), (['h', 'a', 'i', 'r', 's', 'p', ';'], ['\u200a']),
   (['h', 'a', 'l', 'f', ';'], ['\u00bd']), (['h', 'a', 'm', 'i', 'l', 't', ';'], ['\u210b']),
   (['h', 'a', 'r', 'd', 'c', 'y', ';'], ['\u044a']), (['h', 'a', 'r', 'r', ';'], ['\u2194']),
   (['h', 'a', 'r', 'r', 'c', 'i', 'r', ';'], ['\u2948']),
   (['h', 'a', 'r', 'r', 'w', ';'], ['\u21ad']), (['h', 'b', 'a', 'r', ';'], ['\u210f']),
   (['h', 'c', 'i', 'r', 'c', ';'], ['\u0125']), (['h', 'e', 'a', 'r', 't', 's', ';'], ['\u2665']),
   (['h', 'e', 'a', 'r', 't', 's', 'u', 'i', 't', ';'], ['\u2665']),
   (['h', 'e', 'l', 'l', 'i', 'p', ';'], ['\u2026']),
   (['h', 'e', 'r', 'c', 'o', 'n', ';'], ['\u22b9']), (['h', 'f', 'r', ';'], [Char.ofNat 0x1d525]),
   (['h', 'k', 's', 'e', 'a', 'r', 'o', 'w', ';'], ['\u2925']),
   (['h', 'k', 's', 'w', 'a', 'r', 'o', 'w', ';'], ['\u2926']),
   (['h', 'o', 'a', 'r', 'r', ';'], ['\u21ff']), (['h', 'o', 'm', 't', 'h', 't', ';'], ['\u223b']),
   (['h', 'o', 'o', 'k', 'l', 'e', 'f', 't', 'a', 'r', 'r', 'o', 'w', ';'], ['\u21a9']),
   (['h', 'o', 'o', 'k', 'r', 'i', 'g', 'h', 't', 'a', 'r', 'r', 'o', 'w', ';'], ['\u21aa']),
   (['h', 'o', 'p', 'f', ';'], [Char.ofNat 0x1d559]),
   (['h', 'o', 'r', 'b', 'a', 'r', ';'], ['\u2015']),
   (['h', 's', 'c', 'r', ';'], [Char.ofNat 0x1d4bd]),
   (['h', 's', 'l', 'a', 's', 'h', ';'], ['\u210f']),
   (['h', 's', 't', 'r', 'o', 'k', ';'], ['\u0127']),
   (['h', 'y', 'b', 'u', 'l', 'l', ';'], ['\u2043']),
   (['h', 'y', 'p', 'h', 'e', 'n', ';'], ['\u2010'])]

/-- Names that begin with `i`. -/
private def lowerI : List (Text × Text) :=
  [(['i', 'a', 'c', 'u', 't', 'e'], ['\u00ed']), (['i', 'a', 'c', 'u', 't', 'e', ';'], ['\u00ed']),
   (['i', 'c', ';'], ['\u2063']), (['i', 'c', 'i', 'r', 'c'], ['\u00ee']),
   (['i', 'c', 'i', 'r', 'c', ';'], ['\u00ee']), (['i', 'c', 'y', ';'], ['\u0438']),
   (['i', 'e', 'c', 'y', ';'], ['\u0435']), (['i', 'e', 'x', 'c', 'l'], ['\u00a1']),
   (['i', 'e', 'x', 'c', 'l', ';'], ['\u00a1']), (['i', 'f', 'f', ';'], ['\u21d4']),
   (['i', 'f', 'r', ';'], [Char.ofNat 0x1d526]), (['i', 'g', 'r', 'a', 'v', 'e'], ['\u00ec']),
   (['i', 'g', 'r', 'a', 'v', 'e', ';'], ['\u00ec']), (['i', 'i', ';'], ['\u2148']),
   (['i', 'i', 'i', 'i', 'n', 't', ';'], ['\u2a0c']), (['i', 'i', 'i', 'n', 't', ';'], ['\u222d']),
   (['i', 'i', 'n', 'f', 'i', 'n', ';'], ['\u29dc']), (['i', 'i', 'o', 't', 'a', ';'], ['\u2129']),
   (['i', 'j', 'l', 'i', 'g', ';'], ['\u0133']), (['i', 'm', 'a', 'c', 'r', ';'], ['\u012b']),
   (['i', 'm', 'a', 'g', 'e', ';'], ['\u2111']),
   (['i', 'm', 'a', 'g', 'l', 'i', 'n', 'e', ';'], ['\u2110']),
   (['i', 'm', 'a', 'g', 'p', 'a', 'r', 't', ';'], ['\u2111']),
   (['i', 'm', 'a', 't', 'h', ';'], ['\u0131']), (['i', 'm', 'o', 'f', ';'], ['\u22b7']),
   (['i', 'm', 'p', 'e', 'd', ';'], ['\u01b5']), (['i', 'n', ';'], ['\u2208']),
   (['i', 'n', 'c', 'a', 'r', 'e', ';'], ['\u2105']), (['i', 'n', 'f', 'i', 'n', ';'], ['\u221e']),
   (['i', 'n', 'f', 'i', 'n', 't', 'i', 'e', ';'], ['\u29dd']),
   (['i', 'n', 'o', 'd', 'o', 't', ';'], ['\u0131']), (['i', 'n', 't', ';'], ['\u222b']),
   (['i', 'n', 't', 'c', 'a', 'l', ';'], ['\u22ba']),
   (['i', 'n', 't', 'e', 'g', 'e', 'r', 's', ';'], ['\u2124']),
   (['i', 'n', 't', 'e', 'r', 'c', 'a', 'l', ';'], ['\u22ba']),
   (['i', 'n', 't', 'l', 'a', 'r', 'h', 'k', ';'], ['\u2a17']),
   (['i', 'n', 't', 'p', 'r', 'o', 'd', ';'], ['\u2a3c']), (['i', 'o', 'c', 'y', ';'], ['\u0451']),
   (['i', 'o', 'g', 'o', 'n', ';'], ['\u012f']), (['i', 'o', 'p', 'f', ';'], [Char.ofNat 0x1d55a]),
   (['i', 'o', 't', 'a', ';'], ['\u03b9']), (['i', 'p', 'r', 'o', 'd', ';'], ['\u2a3c']),
   (['i', 'q', 'u', 'e', 's', 't'], ['\u00bf']), (['i', 'q', 'u', 'e', 's', 't', ';'], ['\u00bf']),
   (['i', 's', 'c', 'r', ';'], [Char.ofNat 0x1d4be]), (['i', 's', 'i', 'n', ';'], ['\u2208']),
   (['i', 's', 'i', 'n', 'E', ';'], ['\u22f9']),
   (['i', 's', 'i', 'n', 'd', 'o', 't', ';'], ['\u22f5']),
   (['i', 's', 'i', 'n', 's', ';'], ['\u22f4']), (['i', 's', 'i', 'n', 's', 'v', ';'], ['\u22f3']),
   (['i', 's', 'i', 'n', 'v', ';'], ['\u2208']), (['i', 't', ';'], ['\u2062']),
   (['i', 't', 'i', 'l', 'd', 'e', ';'], ['\u0129']), (['i', 'u', 'k', 'c', 'y', ';'], ['\u0456']),
   (['i', 'u', 'm', 'l'], ['\u00ef']), (['i', 'u', 'm', 'l', ';'], ['\u00ef'])]

/-- Names that begin with `j`. -/
private def lowerJ : List (Text × Text) :=
  [(['j', 'c', 'i', 'r', 'c', ';'], ['\u0135']), (['j', 'c', 'y', ';'], ['\u0439']),
   (['j', 'f', 'r', ';'], [Char.ofNat 0x1d527]), (['j', 'm', 'a', 't', 'h', ';'], ['\u0237']),
   (['j', 'o', 'p', 'f', ';'], [Char.ofNat 0x1d55b]),
   (['j', 's', 'c', 'r', ';'], [Char.ofNat 0x1d4bf]),
   (['j', 's', 'e', 'r', 'c', 'y', ';'], ['\u0458']), (['j', 'u', 'k', 'c', 'y', ';'], ['\u0454'])]

/-- Names that begin with `k`. -/
private def lowerK : List (Text × Text) :=
  [(['k', 'a', 'p', 'p', 'a', ';'], ['\u03ba']), (['k', 'a', 'p', 'p', 'a', 'v', ';'], ['\u03f0']),
   (['k', 'c', 'e', 'd', 'i', 'l', ';'], ['\u0137']), (['k', 'c', 'y', ';'], ['\u043a']),
   (['k', 'f', 'r', ';'], [Char.ofNat 0x1d528]), (['k', 'g', 'r', 'e', 'e', 'n', ';'], ['\u0138']),
   (['k', 'h', 'c', 'y', ';'], ['\u0445']), (['k', 'j', 'c', 'y', ';'], ['\u045c']),
   (['k', 'o', 'p', 'f', ';'], [Char.ofNat 0x1d55c]),
   (['k', 's', 'c', 'r', ';'], [Char.ofNat 0x1d4c0])]

/-- Names that begin with `l`. -/
private def lowerL : List (Text × Text) :=
  [(['l', 'A', 'a', 'r', 'r', ';'], ['\u21da']), (['l', 'A', 'r', 'r', ';'], ['\u21d0']),
   (['l', 'A', 't', 'a', 'i', 'l', ';'], ['\u291b']), (['l', 'B', 'a', 'r', 'r', ';'], ['\u290e']),
   (['l', 'E', ';'], ['\u2266']), (['l', 'E', 'g', ';'], ['\u2a8b']),
   (['l', 'H', 'a', 'r', ';'], ['\u2962']), (['l', 'a', 'c', 'u', 't', 'e', ';'], ['\u013a']),
   (['l', 'a', 'e', 'm', 'p', 't', 'y', 'v', ';'], ['\u29b4']),
   (['l', 'a', 'g', 'r', 'a', 'n', ';'], ['\u2112']),
   (['l', 'a', 'm', 'b', 'd', 'a', ';'], ['\u03bb']), (['l', 'a', 'n', 'g', ';'], ['\u27e8']),
   (['l', 'a', 'n', 'g', 'd', ';'], ['\u2991']), (['l', 'a', 'n', 'g', 'l', 'e', ';'], ['\u27e8']),
   (['l', 'a', 'p', ';'], ['\u2a85']), (['l', 'a', 'q', 'u', 'o'], ['\u00ab']),
   (['l', 'a', 'q', 'u', 'o', ';'], ['\u00ab']), (['l', 'a', 'r', 'r', ';'], ['\u2190']),
   (['l', 'a', 'r', 'r', 'b', ';'], ['\u21e4']),
   (['l', 'a', 'r', 'r', 'b', 'f', 's', ';'], ['\u291f']),
   (['l', 'a', 'r', 'r', 'f', 's', ';'], ['\u291d']),
   (['l', 'a', 'r', 'r', 'h', 'k', ';'], ['\u21a9']),
   (['l', 'a', 'r', 'r', 'l', 'p', ';'], ['\u21ab']),
   (['l', 'a', 'r', 'r', 'p', 'l', ';'], ['\u2939']),
   (['l', 'a', 'r', 'r', 's', 'i', 'm', ';'], ['\u2973']),
   (['l', 'a', 'r', 'r', 't', 'l', ';'], ['\u21a2']), (['l', 'a', 't', ';'], ['\u2aab']),
   (['l', 'a', 't', 'a', 'i', 'l', ';'], ['\u2919']), (['l', 'a', 't', 'e', ';'], ['\u2aad']),
   (['l', 'a', 't', 'e', 's', ';'], ['\u2aad', '\ufe00']),
   (['l', 'b', 'a', 'r', 'r', ';'], ['\u290c']), (['l', 'b', 'b', 'r', 'k', ';'], ['\u2772']),
   (['l', 'b', 'r', 'a', 'c', 'e', ';'], ['\u007b']),
   (['l', 'b', 'r', 'a', 'c', 'k', ';'], ['\u005b']), (['l', 'b', 'r', 'k', 'e', ';'], ['\u298b']),
   (['l', 'b', 'r', 'k', 's', 'l', 'd', ';'], ['\u298f']),
   (['l', 'b', 'r', 'k', 's', 'l', 'u', ';'], ['\u298d']),
   (['l', 'c', 'a', 'r', 'o', 'n', ';'], ['\u013e']),
   (['l', 'c', 'e', 'd', 'i', 'l', ';'], ['\u013c']), (['l', 'c', 'e', 'i', 'l', ';'], ['\u2308']),
   (['l', 'c', 'u', 'b', ';'], ['\u007b']), (['l', 'c', 'y', ';'], ['\u043b']),
   (['l', 'd', 'c', 'a', ';'], ['\u2936']), (['l', 'd', 'q', 'u', 'o', ';'], ['\u201c']),
   (['l', 'd', 'q', 'u', 'o', 'r', ';'], ['\u201e']),
   (['l', 'd', 'r', 'd', 'h', 'a', 'r', ';'], ['\u2967']),
   (['l', 'd', 'r', 'u', 's', 'h', 'a', 'r', ';'], ['\u294b']),
   (['l', 'd', 's', 'h', ';'], ['\u21b2']), (['l', 'e', ';'], ['\u2264']),
   (['l', 'e', 'f', 't', 'a', 'r', 'r', 'o', 'w', ';'], ['\u2190']),
   (['l', 'e', 'f', 't', 'a', 'r', 'r', 'o', 'w', 't', 'a', 'i', 'l', ';'], ['\u21a2']),
   (['l', 'e', 'f', 't', 'h', 'a', 'r', 'p', 'o', 'o', 'n', 'd', 'o', 'w', 'n', ';'], ['\u21bd']),
   (['l', 'e', 'f', 't', 'h', 'a', 'r', 'p', 'o', 'o', 'n', 'u', 'p', ';'], ['\u21bc']),
   (['l', 'e', 'f', 't', 'l', 'e', 'f', 't', 'a', 'r', 'r', 'o', 'w', 's', ';'], ['\u21c7']),
   (['l', 'e', 'f', 't', 'r', 'i', 'g', 'h', 't', 'a', 'r', 'r', 'o', 'w', ';'], ['\u2194']),
   (['l', 'e', 'f', 't', 'r', 'i', 'g', 'h', 't', 'a', 'r', 'r', 'o', 'w', 's', ';'], ['\u21c6']),
   (['l', 'e', 'f', 't', 'r', 'i', 'g', 'h', 't', 'h', 'a', 'r', 'p', 'o', 'o', 'n', 's', ';'], ['\u21cb']),
   (['l', 'e', 'f', 't', 'r', 'i', 'g', 'h', 't', 's', 'q', 'u', 'i', 'g', 'a', 'r', 'r', 'o', 'w', ';'], ['\u21ad']),
   (['l', 'e', 'f', 't', 't', 'h', 'r', 'e', 'e', 't', 'i', 'm', 'e', 's', ';'], ['\u22cb']),
   (['l', 'e', 'g', ';'], ['\u22da']), (['l', 'e', 'q', ';'], ['\u2264']),
   (['l', 'e', 'q', 'q', ';'], ['\u2266']),
   (['l', 'e', 'q', 's', 'l', 'a', 'n', 't', ';'], ['\u2a7d']), (['l', 'e', 's', ';'], ['\u2a7d']),
   (['l', 'e', 's', 'c', 'c', ';'], ['\u2aa8']), (['l', 'e', 's', 'd', 'o', 't', ';'], ['\u2a7f']),
   (['l', 'e', 's', 'd', 'o', 't', 'o', ';'], ['\u2a81']),
   (['l', 'e', 's', 'd', 'o', 't', 'o', 'r', ';'], ['\u2a83']),
   (['l', 'e', 's', 'g', ';'], ['\u22da', '\ufe00']),
   (['l', 'e', 's', 'g', 'e', 's', ';'], ['\u2a93']),
   (['l', 'e', 's', 's', 'a', 'p', 'p', 'r', 'o', 'x', ';'], ['\u2a85']),
   (['l', 'e', 's', 's', 'd', 'o', 't', ';'], ['\u22d6']),
   (['l', 'e', 's', 's', 'e', 'q', 'g', 't', 'r', ';'], ['\u22da']),
   (['l', 'e', 's', 's', 'e', 'q', 'q', 'g', 't', 'r', ';'], ['\u2a8b']),
   (['l', 'e', 's', 's', 'g', 't', 'r', ';'], ['\u2276']),
   (['l', 'e', 's', 's', 's', 'i', 'm', ';'], ['\u2272']),
   (['l', 'f', 'i', 's', 'h', 't', ';'], ['\u297c']),
   (['l', 'f', 'l', 'o', 'o', 'r', ';'], ['\u230a']), (['l', 'f', 'r', ';'], [Char.ofNat 0x1d529]),
   (['l', 'g', ';'], ['\u2276']), (['l', 'g', 'E', ';'], ['\u2a91']),
   (['l', 'h', 'a', 'r', 'd', ';'], ['\u21bd']), (['l', 'h', 'a', 'r', 'u', ';'], ['\u21bc']),
   (['l', 'h', 'a', 'r', 'u', 'l', ';'], ['\u296a']), (['l', 'h', 'b', 'l', 'k', ';'], ['\u2584']),
   (['l', 'j', 'c', 'y', ';'], ['\u0459']), (['l', 'l', ';'], ['\u226a']),
   (['l', 'l', 'a', 'r', 'r', ';'], ['\u21c7']),
   (['l', 'l', 'c', 'o', 'r', 'n', 'e', 'r', ';'], ['\u231e']),
   (['l', 'l', 'h', 'a', 'r', 'd', ';'], ['\u296b']), (['l', 'l', 't', 'r', 'i', ';'], ['\u25fa']),
   (['l', 'm', 'i', 'd', 'o', 't', ';'], ['\u0140']),
   (['l', 'm', 'o', 'u', 's', 't', ';'], ['\u23b0']),
   (['l', 'm', 'o', 'u', 's', 't', 'a', 'c', 'h', 'e', ';'], ['\u23b0']),
   (['l', 'n', 'E', ';'], ['\u2268']), (['l', 'n', 'a', 'p', ';'], ['\u2a89']),
   (['l', 'n', 'a', 'p', 'p', 'r', 'o', 'x', ';'], ['\u2a89']), (['l', 'n', 'e', ';'], ['\u2a87']),
   (['l', 'n', 'e', 'q', ';'], ['\u2a87']), (['l', 'n', 'e', 'q', 'q', ';'], ['\u2268']),
   (['l', 'n', 's', 'i', 'm', ';'], ['\u22e6']), (['l', 'o', 'a', 'n', 'g', ';'], ['\u27ec']),
   (['l', 'o', 'a', 'r', 'r', ';'], ['\u21fd']), (['l', 'o', 'b', 'r', 'k', ';'], ['\u27e6']),
   (['l', 'o', 'n', 'g', 'l', 'e', 'f', 't', 'a', 'r', 'r', 'o', 'w', ';'], ['\u27f5']),
   (['l', 'o', 'n', 'g', 'l', 'e', 'f', 't', 'r', 'i', 'g', 'h', 't', 'a', 'r', 'r', 'o', 'w', ';'], ['\u27f7']),
   (['l', 'o', 'n', 'g', 'm', 'a', 'p', 's', 't', 'o', ';'], ['\u27fc']),
   (['l', 'o', 'n', 'g', 'r', 'i', 'g', 'h', 't', 'a', 'r', 'r', 'o', 'w', ';'], ['\u27f6']),
   (['l', 'o', 'o', 'p', 'a', 'r', 'r', 'o', 'w', 'l', 'e', 'f', 't', ';'], ['\u21ab']),
   (['l', 'o', 'o', 'p', 'a', 'r', 'r', 'o', 'w', 'r', 'i', 'g', 'h', 't', ';'], ['\u21ac']),
   (['l', 'o', 'p', 'a', 'r', ';'], ['\u2985']), (['l', 'o', 'p', 'f', ';'], [Char.ofNat 0x1d55d]),
   (['l', 'o', 'p', 'l', 'u', 's', ';'], ['\u2a2d']),
   (['l', 'o', 't', 'i', 'm', 'e', 's', ';'], ['\u2a34']),
   (['l', 'o', 'w', 'a', 's', 't', ';'], ['\u2217']),
   (['l', 'o', 'w', 'b', 'a', 'r', ';'], ['\u005f']), (['l', 'o', 'z', ';'], ['\u25ca']),
   (['l', 'o', 'z', 'e', 'n', 'g', 'e', ';'], ['\u25ca']), (['l', 'o', 'z', 'f', ';'], ['\u29eb']),
   (['l', 'p', 'a', 'r', ';'], ['\u0028']), (['l', 'p', 'a', 'r', 'l', 't', ';'], ['\u2993']),
   (['l', 'r', 'a', 'r', 'r', ';'], ['\u21c6']),
   (['l', 'r', 'c', 'o', 'r', 'n', 'e', 'r', ';'], ['\u231f']),
   (['l', 'r', 'h', 'a', 'r', ';'], ['\u21cb']), (['l', 'r', 'h', 'a', 'r', 'd', ';'], ['\u296d']),
   (['l', 'r', 'm', ';'], ['\u200e']), (['l', 'r', 't', 'r', 'i', ';'], ['\u22bf']),
   (['l', 's', 'a', 'q', 'u', 'o', ';'], ['\u2039']),
   (['l', 's', 'c', 'r', ';'], [Char.ofNat 0x1d4c1]), (['l', 's', 'h', ';'], ['\u21b0']),
   (['l', 's', 'i', 'm', ';'], ['\u2272']), (['l', 's', 'i', 'm', 'e', ';'], ['\u2a8d']),
   (['l', 's', 'i', 'm', 'g', ';'], ['\u2a8f']), (['l', 's', 'q', 'b', ';'], ['\u005b']),
   (['l', 's', 'q', 'u', 'o', ';'], ['\u2018']), (['l', 's', 'q', 'u', 'o', 'r', ';'], ['\u201a']),
   (['l', 's', 't', 'r', 'o', 'k', ';'], ['\u0142']), (['l', 't'], ['\u003c']),
   (['l', 't', ';'], ['\u003c']), (['l', 't', 'c', 'c', ';'], ['\u2aa6']),
   (['l', 't', 'c', 'i', 'r', ';'], ['\u2a79']), (['l', 't', 'd', 'o', 't', ';'], ['\u22d6']),
   (['l', 't', 'h', 'r', 'e', 'e', ';'], ['\u22cb']),
   (['l', 't', 'i', 'm', 'e', 's', ';'], ['\u22c9']),
   (['l', 't', 'l', 'a', 'r', 'r', ';'], ['\u2976']),
   (['l', 't', 'q', 'u', 'e', 's', 't', ';'], ['\u2a7b']),
   (['l', 't', 'r', 'P', 'a', 'r', ';'], ['\u2996']), (['l', 't', 'r', 'i', ';'], ['\u25c3']),
   (['l', 't', 'r', 'i', 'e', ';'], ['\u22b4']), (['l', 't', 'r', 'i', 'f', ';'], ['\u25c2']),
   (['l', 'u', 'r', 'd', 's', 'h', 'a', 'r', ';'], ['\u294a']),
   (['l', 'u', 'r', 'u', 'h', 'a', 'r', ';'], ['\u2966']),
   (['l', 'v', 'e', 'r', 't', 'n', 'e', 'q', 'q', ';'], ['\u2268', '\ufe00']),
   (['l', 'v', 'n', 'E', ';'], ['\u2268', '\ufe00'])]

/-- Names that begin with `m`. -/
private def lowerM : List (Text × Text) :=
  [(['m', 'D', 'D', 'o', 't', ';'], ['\u223a']), (['m', 'a', 'c', 'r'], ['\u00af']),
   (['m', 'a', 'c', 'r', ';'], ['\u00af']), (['m', 'a', 'l', 'e', ';'], ['\u2642']),
   (['m', 'a', 'l', 't', ';'], ['\u2720']), (['m', 'a', 'l', 't', 'e', 's', 'e', ';'], ['\u2720']),
   (['m', 'a', 'p', ';'], ['\u21a6']), (['m', 'a', 'p', 's', 't', 'o', ';'], ['\u21a6']),
   (['m', 'a', 'p', 's', 't', 'o', 'd', 'o', 'w', 'n', ';'], ['\u21a7']),
   (['m', 'a', 'p', 's', 't', 'o', 'l', 'e', 'f', 't', ';'], ['\u21a4']),
   (['m', 'a', 'p', 's', 't', 'o', 'u', 'p', ';'], ['\u21a5']),
   (['m', 'a', 'r', 'k', 'e', 'r', ';'], ['\u25ae']),
   (['m', 'c', 'o', 'm', 'm', 'a', ';'], ['\u2a29']), (['m', 'c', 'y', ';'], ['\u043c']),
   (['m', 'd', 'a', 's', 'h', ';'], ['\u2014']),
   (['m', 'e', 'a', 's', 'u', 'r', 'e', 'd', 'a', 'n', 'g', 'l', 'e', ';'], ['\u2221']),
   (['m', 'f', 'r', ';'], [Char.ofNat 0x1d52a]), (['m', 'h', 'o', ';'], ['\u2127']),
   (['m', 'i', 'c', 'r', 'o'], ['\u00b5']), (['m', 'i', 'c', 'r', 'o', ';'], ['\u00b5']),
   (['m', 'i', 'd', ';'], ['\u2223']), (['m', 'i', 'd', 'a', 's', 't', ';'], ['\u002a']),
   (['m', 'i', 'd', 'c', 'i', 'r', ';'], ['\u2af0']), (['m', 'i', 'd', 'd', 'o', 't'], ['\u00b7']),
   (['m', 'i', 'd', 'd', 'o', 't', ';'], ['\u00b7']), (['m', 'i', 'n', 'u', 's', ';'], ['\u2212']),
   (['m', 'i', 'n', 'u', 's', 'b', ';'], ['\u229f']),
   (['m', 'i', 'n', 'u', 's', 'd', ';'], ['\u2238']),
   (['m', 'i', 'n', 'u', 's', 'd', 'u', ';'], ['\u2a2a']), (['m', 'l', 'c', 'p', ';'], ['\u2adb']),
   (['m', 'l', 'd', 'r', ';'], ['\u2026']), (['m', 'n', 'p', 'l', 'u', 's', ';'], ['\u2213']),
   (['m', 'o', 'd', 'e', 'l', 's', ';'], ['\u22a7']),
   (['m', 'o', 'p', 'f', ';'], [Char.ofNat 0x1d55e]), (['m', 'p', ';'], ['\u2213']),
   (['m', 's', 'c', 'r', ';'], [Char.ofNat 0x1d4c2]),
   (['m', 's', 't', 'p', 'o', 's', ';'], ['\u223e']), (['m', 'u', ';'], ['\u03bc']),
   (['m', 'u', 'l', 't', 'i', 'm', 'a', 'p', ';'], ['\u22b8']),
   (['m', 'u', 'm', 'a', 'p', ';'], ['\u22b8'])]

/-- Names that begin with `n`. -/
private def lowerN : List (Text × Text) :=
  [(['n', 'G', 'g', ';'], ['\u22d9', '\u0338']), (['n', 'G', 't', ';'], ['\u226b', '\u20d2']),
   (['n', 'G', 't', 'v', ';'], ['\u226b', '\u0338']),
   (['n', 'L', 'e', 'f', 't', 'a', 'r', 'r', 'o', 'w', ';'], ['\u21cd']),
   (['n', 'L', 'e', 'f', 't', 'r', 'i', 'g', 'h', 't', 'a', 'r', 'r', 'o', 'w', ';'], ['\u21ce']),
   (['n', 'L', 'l', ';'], ['\u22d8', '\u0338']), (['n', 'L', 't', ';'], ['\u226a', '\u20d2']),
   (['n', 'L', 't', 'v', ';'], ['\u226a', '\u0338']),
   (['n', 'R', 'i', 'g', 'h', 't', 'a', 'r', 'r', 'o', 'w', ';'], ['\u21cf']),
   (['n', 'V', 'D', 'a', 's', 'h', ';'], ['\u22af']),
   (['n', 'V', 'd', 'a', 's', 'h', ';'], ['\u22ae']), (['n', 'a', 'b', 'l', 'a', ';'], ['\u2207']),
   (['n', 'a', 'c', 'u', 't', 'e', ';'], ['\u0144']),
   (['n', 'a', 'n', 'g', ';'], ['\u2220', '\u20d2']), (['n', 'a', 'p', ';'], ['\u2249']),
   (['n', 'a', 'p', 'E', ';'], ['\u2a70', '\u0338']),
   (['n', 'a', 'p', 'i', 'd', ';'], ['\u224b', '\u0338']),
   (['n', 'a', 'p', 'o', 's', ';'], ['\u0149']),
   (['n', 'a', 'p', 'p', 'r', 'o', 'x', ';'], ['\u2249']),
   (['n', 'a', 't', 'u', 'r', ';'], ['\u266e']),
   (['n', 'a', 't', 'u', 'r', 'a', 'l', ';'], ['\u266e']),
   (['n', 'a', 't', 'u', 'r', 'a', 'l', 's', ';'], ['\u2115']), (['n', 'b', 's', 'p'], ['\u00a0']),
   (['n', 'b', 's', 'p', ';'], ['\u00a0']), (['n', 'b', 'u', 'm', 'p', ';'], ['\u224e', '\u0338']),
   (['n', 'b', 'u', 'm', 'p', 'e', ';'], ['\u224f', '\u0338']),
   (['n', 'c', 'a', 'p', ';'], ['\u2a43']), (['n', 'c', 'a', 'r', 'o', 'n', ';'], ['\u0148']),
   (['n', 'c', 'e', 'd', 'i', 'l', ';'], ['\u0146']), (['n', 'c', 'o', 'n', 'g', ';'], ['\u2247']),
   (['n', 'c', 'o', 'n', 'g', 'd', 'o', 't', ';'], ['\u2a6d', '\u0338']),
   (['n', 'c', 'u', 'p', ';'], ['\u2a42']), (['n', 'c', 'y', ';'], ['\u043d']),
   (['n', 'd', 'a', 's', 'h', ';'], ['\u2013']), (['n', 'e', ';'], ['\u2260']),
   (['n', 'e', 'A', 'r', 'r', ';'], ['\u21d7']), (['n', 'e', 'a', 'r', 'h', 'k', ';'], ['\u2924']),
   (['n', 'e', 'a', 'r', 'r', ';'], ['\u2197']),
   (['n', 'e', 'a', 'r', 'r', 'o', 'w', ';'], ['\u2197']),
   (['n', 'e', 'd', 'o', 't', ';'], ['\u2250', '\u0338']),
   (['n', 'e', 'q', 'u', 'i', 'v', ';'], ['\u2262']),
   (['n', 'e', 's', 'e', 'a', 'r', ';'], ['\u2928']),
   (['n', 'e', 's', 'i', 'm', ';'], ['\u2242', '\u0338']),
   (['n', 'e', 'x', 'i', 's', 't', ';'], ['\u2204']),
   (['n', 'e', 'x', 'i', 's', 't', 's', ';'], ['\u2204']),
   (['n', 'f', 'r', ';'], [Char.ofNat 0x1d52b]), (['n', 'g', 'E', ';'], ['\u2267', '\u0338']),
   (['n', 'g', 'e', ';'], ['\u2271']), (['n', 'g', 'e', 'q', ';'], ['\u2271']),
   (['n', 'g', 'e', 'q', 'q', ';'], ['\u2267', '\u0338']),
   (['n', 'g', 'e', 'q', 's', 'l', 'a', 'n', 't', ';'], ['\u2a7e', '\u0338']),
   (['n', 'g', 'e', 's', ';'], ['\u2a7e', '\u0338']), (['n', 'g', 's', 'i', 'm', ';'], ['\u2275']),
   (['n', 'g', 't', ';'], ['\u226f']), (['n', 'g', 't', 'r', ';'], ['\u226f']),
   (['n', 'h', 'A', 'r', 'r', ';'], ['\u21ce']), (['n', 'h', 'a', 'r', 'r', ';'], ['\u21ae']),
   (['n', 'h', 'p', 'a', 'r', ';'], ['\u2af2']), (['n', 'i', ';'], ['\u220b']),
   (['n', 'i', 's', ';'], ['\u22fc']), (['n', 'i', 's', 'd', ';'], ['\u22fa']),
   (['n', 'i', 'v', ';'], ['\u220b']), (['n', 'j', 'c', 'y', ';'], ['\u045a']),
   (['n', 'l', 'A', 'r', 'r', ';'], ['\u21cd']), (['n', 'l', 'E', ';'], ['\u2266', '\u0338']),
   (['n', 'l', 'a', 'r', 'r', ';'], ['\u219a']), (['n', 'l', 'd', 'r', ';'], ['\u2025']),
   (['n', 'l', 'e', ';'], ['\u2270']),
   (['n', 'l', 'e', 'f', 't', 'a', 'r', 'r', 'o', 'w', ';'], ['\u219a']),
   (['n', 'l', 'e', 'f', 't', 'r', 'i', 'g', 'h', 't', 'a', 'r', 'r', 'o', 'w', ';'], ['\u21ae']),
   (['n', 'l', 'e', 'q', ';'], ['\u2270']), (['n', 'l', 'e', 'q', 'q', ';'], ['\u2266', '\u0338']),
   (['n', 'l', 'e', 'q', 's', 'l', 'a', 'n', 't', ';'], ['\u2a7d', '\u0338']),
   (['n', 'l', 'e', 's', ';'], ['\u2a7d', '\u0338']), (['n', 'l', 'e', 's', 's', ';'], ['\u226e']),
   (['n', 'l', 's', 'i', 'm', ';'], ['\u2274']), (['n', 'l', 't', ';'], ['\u226e']),
   (['n', 'l', 't', 'r', 'i', ';'], ['\u22ea']), (['n', 'l', 't', 'r', 'i', 'e', ';'], ['\u22ec']),
   (['n', 'm', 'i', 'd', ';'], ['\u2224']), (['n', 'o', 'p', 'f', ';'], [Char.ofNat 0x1d55f]),
   (['n', 'o', 't'], ['\u00ac']), (['n', 'o', 't', ';'], ['\u00ac']),
   (['n', 'o', 't', 'i', 'n', ';'], ['\u2209']),
   (['n', 'o', 't', 'i', 'n', 'E', ';'], ['\u22f9', '\u0338']),
   (['n', 'o', 't', 'i', 'n', 'd', 'o', 't', ';'], ['\u22f5', '\u0338']),
   (['n', 'o', 't', 'i', 'n', 'v', 'a', ';'], ['\u2209']),
   (['n', 'o', 't', 'i', 'n', 'v', 'b', ';'], ['\u22f7']),
   (['n', 'o', 't', 'i', 'n', 'v', 'c', ';'], ['\u22f6']),
   (['n', 'o', 't', 'n', 'i', ';'], ['\u220c']),
   (['n', 'o', 't', 'n', 'i', 'v', 'a', ';'], ['\u220c']),
   (['n', 'o', 't', 'n', 'i', 'v', 'b', ';'], ['\u22fe']),
   (['n', 'o', 't', 'n', 'i', 'v', 'c', ';'], ['\u22fd']), (['n', 'p', 'a', 'r', ';'], ['\u2226']),
   (['n', 'p', 'a', 'r', 'a', 'l', 'l', 'e', 'l', ';'], ['\u2226']),
   (['n', 'p', 'a', 'r', 's', 'l', ';'], ['\u2afd', '\u20e5']),
   (['n', 'p', 'a', 'r', 't', ';'], ['\u2202', '\u0338']),
   (['n', 'p', 'o', 'l', 'i', 'n', 't', ';'], ['\u2a14']), (['n', 'p', 'r', ';'], ['\u2280']),
   (['n', 'p', 'r', 'c', 'u', 'e', ';'], ['\u22e0']),
   (['n', 'p', 'r', 'e', ';'], ['\u2aaf', '\u0338']), (['n', 'p', 'r', 'e', 'c', ';'], ['\u2280']),
   (['n', 'p', 'r', 'e', 'c', 'e', 'q', ';'], ['\u2aaf', '\u0338']),
   (['n', 'r', 'A', 'r', 'r', ';'], ['\u21cf']), (['n', 'r', 'a', 'r', 'r', ';'], ['\u219b']),
   (['n', 'r', 'a', 'r', 'r', 'c', ';'], ['\u2933', '\u0338']),
   (['n', 'r', 'a', 'r', 'r', 'w', ';'], ['\u219d', '\u0338']),
   (['n', 'r', 'i', 'g', 'h', 't', 'a', 'r', 'r', 'o', 'w', ';'], ['\u219b']),
   (['n', 'r', 't', 'r', 'i', ';'], ['\u22eb']), (['n', 'r', 't', 'r', 'i', 'e', ';'], ['\u22ed']),
   (['n', 's', 'c', ';'], ['\u2281']), (['n', 's', 'c', 'c', 'u', 'e', ';'], ['\u22e1']),
   (['n', 's', 'c', 'e', ';'], ['\u2ab0', '\u0338']),
   (['n', 's', 'c', 'r', ';'], [Char.ofNat 0x1d4c3]),
   (['n', 's', 'h', 'o', 'r', 't', 'm', 'i', 'd', ';'], ['\u2224']),
   (['n', 's', 'h', 'o', 'r', 't', 'p', 'a', 'r', 'a', 'l', 'l', 'e', 'l', ';'], ['\u2226']),
   (['n', 's', 'i', 'm', ';'], ['\u2241']), (['n', 's', 'i', 'm', 'e', ';'], ['\u2244']),
   (['n', 's', 'i', 'm', 'e', 'q', ';'], ['\u2244']), (['n', 's', 'm', 'i', 'd', ';'], ['\u2224']),
   (['n', 's', 'p', 'a', 'r', ';'], ['\u2226']),
   (['n', 's', 'q', 's', 'u', 'b', 'e', ';'], ['\u22e2']),
   (['n', 's', 'q', 's', 'u', 'p', 'e', ';'], ['\u22e3']), (['n', 's', 'u', 'b', ';'], ['\u2284']),
   (['n', 's', 'u', 'b', 'E', ';'], ['\u2ac5', '\u0338']),
   (['n', 's', 'u', 'b', 'e', ';'], ['\u2288']),
   (['n', 's', 'u', 'b', 's', 'e', 't', ';'], ['\u2282', '\u20d2']),
   (['n', 's', 'u', 'b', 's', 'e', 't', 'e', 'q', ';'], ['\u2288']),
   (['n', 's', 'u', 'b', 's', 'e', 't', 'e', 'q', 'q', ';'], ['\u2ac5', '\u0338']),
   (['n', 's', 'u', 'c', 'c', ';'], ['\u2281']),
   (['n', 's', 'u', 'c', 'c', 'e', 'q', ';'], ['\u2ab0', '\u0338']),
   (['n', 's', 'u', 'p', ';'], ['\u2285']), (['n', 's', 'u', 'p', 'E', ';'], ['\u2ac6', '\u0338']),
   (['n', 's', 'u', 'p', 'e', ';'], ['\u2289']),
   (['n', 's', 'u', 'p', 's', 'e', 't', ';'], ['\u2283', '\u20d2']),
   (['n', 's', 'u', 'p', 's', 'e', 't', 'e', 'q', ';'], ['\u2289']),
   (['n', 's', 'u', 'p', 's', 'e', 't', 'e', 'q', 'q', ';'], ['\u2ac6', '\u0338']),
   (['n', 't', 'g', 'l', ';'], ['\u2279']), (['n', 't', 'i', 'l', 'd', 'e'], ['\u00f1']),
   (['n', 't', 'i', 'l', 'd', 'e', ';'], ['\u00f1']), (['n', 't', 'l', 'g', ';'], ['\u2278']),
   (['n', 't', 'r', 'i', 'a', 'n', 'g', 'l', 'e', 'l', 'e', 'f', 't', ';'], ['\u22ea']),
   (['n', 't', 'r', 'i', 'a', 'n', 'g', 'l', 'e', 'l', 'e', 'f', 't', 'e', 'q', ';'], ['\u22ec']),
   (['n', 't', 'r', 'i', 'a', 'n', 'g', 'l', 'e', 'r', 'i', 'g', 'h', 't', ';'], ['\u22eb']),
   (['n', 't', 'r', 'i', 'a', 'n', 'g', 'l', 'e', 'r', 'i', 'g', 'h', 't', 'e', 'q', ';'], ['\u22ed']),
   (['n', 'u', ';'], ['\u03bd']), (['n', 'u', 'm', ';'], ['\u0023']),
   (['n', 'u', 'm', 'e', 'r', 'o', ';'], ['\u2116']), (['n', 'u', 'm', 's', 'p', ';'], ['\u2007']),
   (['n', 'v', 'D', 'a', 's', 'h', ';'], ['\u22ad']),
   (['n', 'v', 'H', 'a', 'r', 'r', ';'], ['\u2904']),
   (['n', 'v', 'a', 'p', ';'], ['\u224d', '\u20d2']),
   (['n', 'v', 'd', 'a', 's', 'h', ';'], ['\u22ac']),
   (['n', 'v', 'g', 'e', ';'], ['\u2265', '\u20d2']),
   (['n', 'v', 'g', 't', ';'], ['\u003e', '\u20d2']),
   (['n', 'v', 'i', 'n', 'f', 'i', 'n', ';'], ['\u29de']),
   (['n', 'v', 'l', 'A', 'r', 'r', ';'], ['\u2902']),
   (['n', 'v', 'l', 'e', ';'], ['\u2264', '\u20d2']),
   (['n', 'v', 'l', 't', ';'], ['\u003c', '\u20d2']),
   (['n', 'v', 'l', 't', 'r', 'i', 'e', ';'], ['\u22b4', '\u20d2']),
   (['n', 'v', 'r', 'A', 'r', 'r', ';'], ['\u2903']),
   (['n', 'v', 'r', 't', 'r', 'i', 'e', ';'], ['\u22b5', '\u20d2']),
   (['n', 'v', 's', 'i', 'm', ';'], ['\u223c', '\u20d2']),
   (['n', 'w', 'A', 'r', 'r', ';'], ['\u21d6']), (['n', 'w', 'a', 'r', 'h', 'k', ';'], ['\u2923']),
   (['n', 'w', 'a', 'r', 'r', ';'], ['\u2196']),
   (['n', 'w', 'a', 'r', 'r', 'o', 'w', ';'], ['\u2196']),
   (['n', 'w', 'n', 'e', 'a', 'r', ';'], ['\u2927'])]

/-- Names that begin with `o`. -/
private def lowerO : List (Text × Text) :=
  [(['o', 'S', ';'], ['\u24c8']), (['o', 'a', 'c', 'u', 't', 'e'], ['\u00f3']),
   (['o', 'a', 'c', 'u', 't', 'e', ';'], ['\u00f3']), (['o', 'a', 's', 't', ';'], ['\u229b']),
   (['o', 'c', 'i', 'r', ';'], ['\u229a']), (['o', 'c', 'i', 'r', 'c'], ['\u00f4']),
   (['o', 'c', 'i', 'r', 'c', ';'], ['\u00f4']), (['o', 'c', 'y', ';'], ['\u043e']),
   (['o', 'd', 'a', 's', 'h', ';'], ['\u229d']), (['o', 'd', 'b', 'l', 'a', 'c', ';'], ['\u0151']),
   (['o', 'd', 'i', 'v', ';'], ['\u2a38']), (['o', 'd', 'o', 't', ';'], ['\u2299']),
   (['o', 'd', 's', 'o', 'l', 'd', ';'], ['\u29bc']), (['o', 'e', 'l', 'i', 'g', ';'], ['\u0153']),
   (['o', 'f', 'c', 'i', 'r', ';'], ['\u29bf']), (['o', 'f', 'r', ';'], [Char.ofNat 0x1d52c]),
   (['o', 'g', 'o', 'n', ';'], ['\u02db']), (['o', 'g', 'r', 'a', 'v', 'e'], ['\u00f2']),
   (['o', 'g', 'r', 'a', 'v', 'e', ';'], ['\u00f2']), (['o', 'g', 't', ';'], ['\u29c1']),
   (['o', 'h', 'b', 'a', 'r', ';'], ['\u29b5']), (['o', 'h', 'm', ';'], ['\u03a9']),
   (['o', 'i', 'n', 't', ';'], ['\u222e']), (['o', 'l', 'a', 'r', 'r', ';'], ['\u21ba']),
   (['o', 'l', 'c', 'i', 'r', ';'], ['\u29be']),
   (['o', 'l', 'c', 'r', 'o', 's', 's', ';'], ['\u29bb']),
   (['o', 'l', 'i', 'n', 'e', ';'], ['\u203e']), (['o', 'l', 't', ';'], ['\u29c0']),
   (['o', 'm', 'a', 'c', 'r', ';'], ['\u014d']), (['o', 'm', 'e', 'g', 'a', ';'], ['\u03c9']),
   (['o', 'm', 'i', 'c', 'r', 'o', 'n', ';'], ['\u03bf']), (['o', 'm', 'i', 'd', ';'], ['\u29b6']),
   (['o', 'm', 'i', 'n', 'u', 's', ';'], ['\u2296']),
   (['o', 'o', 'p', 'f', ';'], [Char.ofNat 0x1d560]), (['o', 'p', 'a', 'r', ';'], ['\u29b7']),
   (['o', 'p', 'e', 'r', 'p', ';'], ['\u29b9']), (['o', 'p', 'l', 'u', 's', ';'], ['\u2295']),
   (['o', 'r', ';'], ['\u2228']), (['o', 'r', 'a', 'r', 'r', ';'], ['\u21bb']),
   (['o', 'r', 'd', ';'], ['\u2a5d']), (['o', 'r', 'd', 'e', 'r', ';'], ['\u2134']),
   (['o', 'r', 'd', 'e', 'r', 'o', 'f', ';'], ['\u2134']), (['o', 'r', 'd', 'f'], ['\u00aa']),
   (['o', 'r', 'd', 'f', ';'], ['\u00aa']), (['o', 'r', 'd', 'm'], ['\u00ba']),
   (['o', 'r', 'd', 'm', ';'], ['\u00ba']), (['o', 'r', 'i', 'g', 'o', 'f', ';'], ['\u22b6']),
   (['o', 'r', 'o', 'r', ';'], ['\u2a56']), (['o', 'r', 's', 'l', 'o', 'p', 'e', ';'], ['\u2a57']),
   (['o', 'r', 'v', ';'], ['\u2a5b']), (['o', 's', 'c', 'r', ';'], ['\u2134']),
   (['o', 's', 'l', 'a', 's', 'h'], ['\u00f8']), (['o', 's', 'l', 'a', 's', 'h', ';'], ['\u00f8']),
   (['o', 's', 'o', 'l', ';'], ['\u2298']), (['o', 't', 'i', 'l', 'd', 'e'], ['\u00f5']),
   (['o', 't', 'i', 'l', 'd', 'e', ';'], ['\u00f5']),
   (['o', 't', 'i', 'm', 'e', 's', ';'], ['\u2297']),
   (['o', 't', 'i', 'm', 'e', 's', 'a', 's', ';'], ['\u2a36']), (['o', 'u', 'm', 'l'], ['\u00f6']),
   (['o', 'u', 'm', 'l', ';'], ['\u00f6']), (['o', 'v', 'b', 'a', 'r', ';'], ['\u233d'])]

/-- Names that begin with `p`. -/
private def lowerP : List (Text × Text) :=
  [(['p', 'a', 'r', ';'], ['\u2225']), (['p', 'a', 'r', 'a'], ['\u00b6']),
   (['p', 'a', 'r', 'a', ';'], ['\u00b6']),
   (['p', 'a', 'r', 'a', 'l', 'l', 'e', 'l', ';'], ['\u2225']),
   (['p', 'a', 'r', 's', 'i', 'm', ';'], ['\u2af3']), (['p', 'a', 'r', 's', 'l', ';'], ['\u2afd']),
   (['p', 'a', 'r', 't', ';'], ['\u2202']), (['p', 'c', 'y', ';'], ['\u043f']),
   (['p', 'e', 'r', 'c', 'n', 't', ';'], ['\u0025']),
   (['p', 'e', 'r', 'i', 'o', 'd', ';'], ['\u002e']),
   (['p', 'e', 'r', 'm', 'i', 'l', ';'], ['\u2030']), (['p', 'e', 'r', 'p', ';'], ['\u22a5']),
   (['p', 'e', 'r', 't', 'e', 'n', 'k', ';'], ['\u2031']),
   (['p', 'f', 'r', ';'], [Char.ofNat 0x1d52d]), (['p', 'h', 'i', ';'], ['\u03c6']),
   (['p', 'h', 'i', 'v', ';'], ['\u03d5']), (['p', 'h', 'm', 'm', 'a', 't', ';'], ['\u2133']),
   (['p', 'h', 'o', 'n', 'e', ';'], ['\u260e']), (['p', 'i', ';'], ['\u03c0']),
   (['p', 'i', 't', 'c', 'h', 'f', 'o', 'r', 'k', ';'], ['\u22d4']),
   (['p', 'i', 'v', ';'], ['\u03d6']), (['p', 'l', 'a', 'n', 'c', 'k', ';'], ['\u210f']),
   (['p', 'l', 'a', 'n', 'c', 'k', 'h', ';'], ['\u210e']),
   (['p', 'l', 'a', 'n', 'k', 'v', ';'], ['\u210f']), (['p', 'l', 'u', 's', ';'], ['\u002b']),
   (['p', 'l', 'u', 's', 'a', 'c', 'i', 'r', ';'], ['\u2a23']),
   (['p', 'l', 'u', 's', 'b', ';'], ['\u229e']),
   (['p', 'l', 'u', 's', 'c', 'i', 'r', ';'], ['\u2a22']),
   (['p', 'l', 'u', 's', 'd', 'o', ';'], ['\u2214']),
   (['p', 'l', 'u', 's', 'd', 'u', ';'], ['\u2a25']), (['p', 'l', 'u', 's', 'e', ';'], ['\u2a72']),
   (['p', 'l', 'u', 's', 'm', 'n'], ['\u00b1']), (['p', 'l', 'u', 's', 'm', 'n', ';'], ['\u00b1']),
   (['p', 'l', 'u', 's', 's', 'i', 'm', ';'], ['\u2a26']),
   (['p', 'l', 'u', 's', 't', 'w', 'o', ';'], ['\u2a27']), (['p', 'm', ';'], ['\u00b1']),
   (['p', 'o', 'i', 'n', 't', 'i', 'n', 't', ';'], ['\u2a15']),
   (['p', 'o', 'p', 'f', ';'], [Char.ofNat 0x1d561]), (['p', 'o', 'u', 'n', 'd'], ['\u00a3']),
   (['p', 'o', 'u', 'n', 'd', ';'], ['\u00a3']), (['p', 'r', ';'], ['\u227a']),
   (['p', 'r', 'E', ';'], ['\u2ab3']), (['p', 'r', 'a', 'p', ';'], ['\u2ab7']),
   (['p', 'r', 'c', 'u', 'e', ';'], ['\u227c']), (['p', 'r', 'e', ';'], ['\u2aaf']),
   (['p', 'r', 'e', 'c', ';'], ['\u227a']),
   (['p', 'r', 'e', 'c', 'a', 'p', 'p', 'r', 'o', 'x', ';'], ['\u2ab7']),
   (['p', 'r', 'e', 'c', 'c', 'u', 'r', 'l', 'y', 'e', 'q', ';'], ['\u227c']),
   (['p', 'r', 'e', 'c', 'e', 'q', ';'], ['\u2aaf']),
   (['p', 'r', 'e', 'c', 'n', 'a', 'p', 'p', 'r', 'o', 'x', ';'], ['\u2ab9']),
   (['p', 'r', 'e', 'c', 'n', 'e', 'q', 'q', ';'], ['\u2ab5']),
   (['p', 'r', 'e', 'c', 'n', 's', 'i', 'm', ';'], ['\u22e8']),
   (['p', 'r', 'e', 'c', 's', 'i', 'm', ';'], ['\u227e']),
   (['p', 'r', 'i', 'm', 'e', ';'], ['\u2032']), (['p', 'r', 'i', 'm', 'e', 's', ';'], ['\u2119']),
   (['p', 'r', 'n', 'E', ';'], ['\u2ab5']), (['p', 'r', 'n', 'a', 'p', ';'], ['\u2ab9']),
   (['p', 'r', 'n', 's', 'i', 'm', ';'], ['\u22e8']), (['p', 'r', 'o', 'd', ';'], ['\u220f']),
   (['p', 'r', 'o', 'f', 'a', 'l', 'a', 'r', ';'], ['\u232e']),
   (['p', 'r', 'o', 'f', 'l', 'i', 'n', 'e', ';'], ['\u2312']),
   (['p', 'r', 'o', 'f', 's', 'u', 'r', 'f', ';'], ['\u2313']),
   (['p', 'r', 'o', 'p', ';'], ['\u221d']), (['p', 'r', 'o', 'p', 't', 'o', ';'], ['\u221d']),
   (['p', 'r', 's', 'i', 'm', ';'], ['\u227e']), (['p', 'r', 'u', 'r', 'e', 'l', ';'], ['\u22b0']),
   (['p', 's', 'c', 'r', ';'], [Char.ofNat 0x1d4c5]), (['p', 's', 'i', ';'], ['\u03c8']),
   (['p', 'u', 'n', 'c', 's', 'p', ';'], ['\u2008'])]

/-- Names that begin with `q`. -/
private def lowerQ : List (Text × Text) :=
  [(['q', 'f', 'r', ';'], [Char.ofNat 0x1d52e]), (['q', 'i', 'n', 't', ';'], ['\u2a0c']),
   (['q', 'o', 'p', 'f', ';'], [Char.ofNat 0x1d562]),
   (['q', 'p', 'r', 'i', 'm', 'e', ';'], ['\u2057']),
   (['q', 's', 'c', 'r', ';'], [Char.ofNat 0x1d4c6]),
   (['q', 'u', 'a', 't', 'e', 'r', 'n', 'i', 'o', 'n', 's', ';'], ['\u210d']),
   (['q', 'u', 'a', 't', 'i', 'n', 't', ';'], ['\u2a16']),
   (['q', 'u', 'e', 's', 't', ';'], ['\u003f']),
   (['q', 'u', 'e', 's', 't', 'e', 'q', ';'], ['\u225f']), (['q', 'u', 'o', 't'], ['\u0022']),
   (['q', 'u', 'o', 't', ';'], ['\u0022'])]

/-- Names that begin with `r`. -/
private def lowerR : List (Text × Text) :=
  [(['r', 'A', 'a', 'r', 'r', ';'], ['\u21db']), (['r', 'A', 'r', 'r', ';'], ['\u21d2']),
   (['r', 'A', 't', 'a', 'i', 'l', ';'], ['\u291c']), (['r', 'B', 'a', 'r', 'r', ';'], ['\u290f']),
   (['r', 'H', 'a', 'r', ';'], ['\u2964']), (['r', 'a', 'c', 'e', ';'], ['\u223d', '\u0331']),
   (['r', 'a', 'c', 'u', 't', 'e', ';'], ['\u0155']), (['r', 'a', 'd', 'i', 'c', ';'], ['\u221a']),
   (['r', 'a', 'e', 'm', 'p', 't', 'y', 'v', ';'], ['\u29b3']),
   (['r', 'a', 'n', 'g', ';'], ['\u27e9']), (['r', 'a', 'n', 'g', 'd', ';'], ['\u2992']),
   (['r', 'a', 'n', 'g', 'e', ';'], ['\u29a5']), (['r', 'a', 'n', 'g', 'l', 'e', ';'], ['\u27e9']),
   (['r', 'a', 'q', 'u', 'o'], ['\u00bb']), (['r', 'a', 'q', 'u', 'o', ';'], ['\u00bb']),
   (['r', 'a', 'r', 'r', ';'], ['\u2192']), (['r', 'a', 'r', 'r', 'a', 'p', ';'], ['\u2975']),
   (['r', 'a', 'r', 'r', 'b', ';'], ['\u21e5']),
   (['r', 'a', 'r', 'r', 'b', 'f', 's', ';'], ['\u2920']),
   (['r', 'a', 'r', 'r', 'c', ';'], ['\u2933']), (['r', 'a', 'r', 'r', 'f', 's', ';'], ['\u291e']),
   (['r', 'a', 'r', 'r', 'h', 'k', ';'], ['\u21aa']),
   (['r', 'a', 'r', 'r', 'l', 'p', ';'], ['\u21ac']),
   (['r', 'a', 'r', 'r', 'p', 'l', ';'], ['\u2945']),
   (['r', 'a', 'r', 'r', 's', 'i', 'm', ';'], ['\u2974']),
   (['r', 'a', 'r', 'r', 't', 'l', ';'], ['\u21a3']), (['r', 'a', 'r', 'r', 'w', ';'], ['\u219d']),
   (['r', 'a', 't', 'a', 'i', 'l', ';'], ['\u291a']), (['r', 'a', 't', 'i', 'o', ';'], ['\u2236']),
   (['r', 'a', 't', 'i', 'o', 'n', 'a', 'l', 's', ';'], ['\u211a']),
   (['r', 'b', 'a', 'r', 'r', ';'], ['\u290d']), (['r', 'b', 'b', 'r', 'k', ';'], ['\u2773']),
   (['r', 'b', 'r', 'a', 'c', 'e', ';'], ['\u007d']),
   (['r', 'b', 'r', 'a', 'c', 'k', ';'], ['\u005d']), (['r', 'b', 'r', 'k', 'e', ';'], ['\u298c']),
   (['r', 'b', 'r', 'k', 's', 'l', 'd', ';'], ['\u298e']),
   (['r', 'b', 'r', 'k', 's', 'l', 'u', ';'], ['\u2990']),
   (['r', 'c', 'a', 'r', 'o', 'n', ';'], ['\u0159']),
   (['r', 'c', 'e', 'd', 'i', 'l', ';'], ['\u0157']), (['r', 'c', 'e', 'i', 'l', ';'], ['\u2309']),
   (['r', 'c', 'u', 'b', ';'], ['\u007d']), (['r', 'c', 'y', ';'], ['\u0440']),
   (['r', 'd', 'c', 'a', ';'], ['\u2937']), (['r', 'd', 'l', 'd', 'h', 'a', 'r', ';'], ['\u2969']),
   (['r', 'd', 'q', 'u', 'o', ';'], ['\u201d']), (['r', 'd', 'q', 'u', 'o', 'r', ';'], ['\u201d']),
   (['r', 'd', 's', 'h', ';'], ['\u21b3']), (['r', 'e', 'a', 'l', ';'], ['\u211c']),
   (['r', 'e', 'a', 'l', 'i', 'n', 'e', ';'], ['\u211b']),
   (['r', 'e', 'a', 'l', 'p', 'a', 'r', 't', ';'], ['\u211c']),
   (['r', 'e', 'a', 'l', 's', ';'], ['\u211d']), (['r', 'e', 'c', 't', ';'], ['\u25ad']),
   (['r', 'e', 'g'], ['\u00ae']), (['r', 'e', 'g', ';'], ['\u00ae']),
   (['r', 'f', 'i', 's', 'h', 't', ';'], ['\u297d']),
   (['r', 'f', 'l', 'o', 'o', 'r', ';'], ['\u230b']), (['r', 'f', 'r', ';'], [Char.ofNat 0x1d52f]),
   (['r', 'h', 'a', 'r', 'd', ';'], ['\u21c1']), (['r', 'h', 'a', 'r', 'u', ';'], ['\u21c0']),
   (['r', 'h', 'a', 'r', 'u', 'l', ';'], ['\u296c']), (['r', 'h', 'o', ';'], ['\u03c1']),
   (['r', 'h', 'o', 'v', ';'], ['\u03f1']),
   (['r', 'i', 'g', 'h', 't', 'a', 'r', 'r', 'o', 'w', ';'], ['\u2192']),
   (['r', 'i', 'g', 'h', 't', 'a', 'r', 'r', 'o', 'w', 't', 'a', 'i', 'l', ';'], ['\u21a3']),
   (['r', 'i', 'g', 'h', 't', 'h', 'a', 'r', 'p', 'o', 'o', 'n', 'd', 'o', 'w', 'n', ';'], ['\u21c1']),
   (['r', 'i', 'g', 'h', 't', 'h', 'a', 'r', 'p', 'o', 'o', 'n', 'u', 'p', ';'], ['\u21c0']),
   (['r', 'i', 'g', 'h', 't', 'l', 'e', 'f', 't', 'a', 'r', 'r', 'o', 'w', 's', ';'], ['\u21c4']),
   (['r', 'i', 'g', 'h', 't', 'l', 'e', 'f', 't', 'h', 'a', 'r', 'p', 'o', 'o', 'n', 's', ';'], ['\u21cc']),
   (['r', 'i', 'g', 'h', 't', 'r', 'i', 'g', 'h', 't', 'a', 'r', 'r', 'o', 'w', 's', ';'], ['\u21c9']),
   (['r', 'i', 'g', 'h', 't', 's', 'q', 'u', 'i', 'g', 'a', 'r', 'r', 'o', 'w', ';'], ['\u219d']),
   (['r', 'i', 'g', 'h', 't', 't', 'h', 'r', 'e', 'e', 't', 'i', 'm', 'e', 's', ';'], ['\u22cc']),
   (['r', 'i', 'n', 'g', ';'], ['\u02da']),
   (['r', 'i', 's', 'i', 'n', 'g', 'd', 'o', 't', 's', 'e', 'q', ';'], ['\u2253']),
   (['r', 'l', 'a', 'r', 'r', ';'], ['\u21c4']), (['r', 'l', 'h', 'a', 'r', ';'], ['\u21cc']),
   (['r', 'l', 'm', ';'], ['\u200f']), (['r', 'm', 'o', 'u', 's', 't', ';'], ['\u23b1']),
   (['r', 'm', 'o', 'u', 's', 't', 'a', 'c', 'h', 'e', ';'], ['\u23b1']),
   (['r', 'n', 'm', 'i', 'd', ';'], ['\u2aee']), (['r', 'o', 'a', 'n', 'g', ';'], ['\u27ed']),
   (['r', 'o', 'a', 'r', 'r', ';'], ['\u21fe']), (['r', 'o', 'b', 'r', 'k', ';'], ['\u27e7']),
   (['r', 'o', 'p', 'a', 'r', ';'], ['\u2986']), (['r', 'o', 'p', 'f', ';'], [Char.ofNat 0x1d563]),
   (['r', 'o', 'p', 'l', 'u', 's', ';'], ['\u2a2e']),
   (['r', 'o', 't', 'i', 'm', 'e', 's', ';'], ['\u2a35']), (['r', 'p', 'a', 'r', ';'], ['\u0029']),
   (['r', 'p', 'a', 'r', 'g', 't', ';'], ['\u2994']),
   (['r', 'p', 'p', 'o', 'l', 'i', 'n', 't', ';'], ['\u2a12']),
   (['r', 'r', 'a', 'r', 'r', ';'], ['\u21c9']), (['r', 's', 'a', 'q', 'u', 'o', ';'], ['\u203a']),
   (['r', 's', 'c', 'r', ';'], [Char.ofNat 0x1d4c7]), (['r', 's', 'h', ';'], ['\u21b1']),
   (['r', 's', 'q', 'b', ';'], ['\u005d']), (['r', 's', 'q', 'u', 'o', ';'], ['\u2019']),
   (['r', 's', 'q', 'u', 'o', 'r', ';'], ['\u2019']),
   (['r', 't', 'h', 'r', 'e', 'e', ';'], ['\u22cc']),
   (['r', 't', 'i', 'm', 'e', 's', ';'], ['\u22ca']), (['r', 't', 'r', 'i', ';'], ['\u25b9']),
   (['r', 't', 'r', 'i', 'e', ';'], ['\u22b5']), (['r', 't', 'r', 'i', 'f', ';'], ['\u25b8']),
   (['r', 't', 'r', 'i', 'l', 't', 'r', 'i', ';'], ['\u29ce']),
   (['r', 'u', 'l', 'u', 'h', 'a', 'r', ';'], ['\u2968']), (['r', 'x', ';'], ['\u211e'])]

/-- Names that begin with `s`. -/
private def lowerS : List (Text × Text) :=
  [(['s', 'a', 'c', 'u', 't', 'e', ';'], ['\u015b']), (['s', 'b', 'q', 'u', 'o', ';'], ['\u201a']),
   (['s', 'c', ';'], ['\u227b']), (['s', 'c', 'E', ';'], ['\u2ab4']),
   (['s', 'c', 'a', 'p', ';'], ['\u2ab8']), (['s', 'c', 'a', 'r', 'o', 'n', ';'], ['\u0161']),
   (['s', 'c', 'c', 'u', 'e', ';'], ['\u227d']), (['s', 'c', 'e', ';'], ['\u2ab0']),
   (['s', 'c', 'e', 'd', 'i', 'l', ';'], ['\u015f']), (['s', 'c', 'i', 'r', 'c', ';'], ['\u015d']),
   (['s', 'c', 'n', 'E', ';'], ['\u2ab6']), (['s', 'c', 'n', 'a', 'p', ';'], ['\u2aba']),
   (['s', 'c', 'n', 's', 'i', 'm', ';'], ['\u22e9']),
   (['s', 'c', 'p', 'o', 'l', 'i', 'n', 't', ';'], ['\u2a13']),
   (['s', 'c', 's', 'i', 'm', ';'], ['\u227f']), (['s', 'c', 'y', ';'], ['\u0441']),
   (['s', 'd', 'o', 't', ';'], ['\u22c5']), (['s', 'd', 'o', 't', 'b', ';'], ['\u22a1']),
   (['s', 'd', 'o', 't', 'e', ';'], ['\u2a66']), (['s', 'e', 'A', 'r', 'r', ';'], ['\u21d8']),
   (['s', 'e', 'a', 'r', 'h', 'k', ';'], ['\u2925']), (['s', 'e', 'a', 'r', 'r', ';'], ['\u2198']),
   (['s', 'e', 'a', 'r', 'r', 'o', 'w', ';'], ['\u2198']), (['s', 'e', 'c', 't'], ['\u00a7']),
   (['s', 'e', 'c', 't', ';'], ['\u00a7']), (['s', 'e', 'm', 'i', ';'], ['\u003b']),
   (['s', 'e', 's', 'w', 'a', 'r', ';'], ['\u2929']),
   (['s', 'e', 't', 'm', 'i', 'n', 'u', 's', ';'], ['\u2216']),
   (['s', 'e', 't', 'm', 'n', ';'], ['\u2216']), (['s', 'e', 'x', 't', ';'], ['\u2736']),
   (['s', 'f', 'r', ';'], [Char.ofNat 0x1d530]), (['s', 'f', 'r', 'o', 'w', 'n', ';'], ['\u2322']),
   (['s', 'h', 'a', 'r', 'p', ';'], ['\u266f']), (['s', 'h', 'c', 'h', 'c', 'y', ';'], ['\u0449']),
   (['s', 'h', 'c', 'y', ';'], ['\u0448']),
   (['s', 'h', 'o', 'r', 't', 'm', 'i', 'd', ';'], ['\u2223']),
   (['s', 'h', 'o', 'r', 't', 'p', 'a', 'r', 'a', 'l', 'l', 'e', 'l', ';'], ['\u2225']),
   (['s', 'h', 'y'], ['\u00ad']), (['s', 'h', 'y', ';'], ['\u00ad']),
   (['s', 'i', 'g', 'm', 'a', ';'], ['\u03c3']), (['s', 'i', 'g', 'm', 'a', 'f', ';'], ['\u03c2']),
   (['s', 'i', 'g', 'm', 'a', 'v', ';'], ['\u03c2']), (['s', 'i', 'm', ';'], ['\u223c']),
   (['s', 'i', 'm', 'd', 'o', 't', ';'], ['\u2a6a']), (['s', 'i', 'm', 'e', ';'], ['\u2243']),
   (['s', 'i', 'm', 'e', 'q', ';'], ['\u2243']), (['s', 'i', 'm', 'g', ';'], ['\u2a9e']),
   (['s', 'i', 'm', 'g', 'E', ';'], ['\u2aa0']), (['s', 'i', 'm', 'l', ';'], ['\u2a9d']),
   (['s', 'i', 'm', 'l', 'E', ';'], ['\u2a9f']), (['s', 'i', 'm', 'n', 'e', ';'], ['\u2246']),
   (['s', 'i', 'm', 'p', 'l', 'u', 's', ';'], ['\u2a24']),
   (['s', 'i', 'm', 'r', 'a', 'r', 'r', ';'], ['\u2972']),
   (['s', 'l', 'a', 'r', 'r', ';'], ['\u2190']),
   (['s', 'm', 'a', 'l', 'l', 's', 'e', 't', 'm', 'i', 'n', 'u', 's', ';'], ['\u2216']),
   (['s', 'm', 'a', 's', 'h', 'p', ';'], ['\u2a33']),
   (['s', 'm', 'e', 'p', 'a', 'r', 's', 'l', ';'], ['\u29e4']),
   (['s', 'm', 'i', 'd', ';'], ['\u2223']), (['s', 'm', 'i', 'l', 'e', ';'], ['\u2323']),
   (['s', 'm', 't', ';'], ['\u2aaa']), (['s', 'm', 't', 'e', ';'], ['\u2aac']),
   (['s', 'm', 't', 'e', 's', ';'], ['\u2aac', '\ufe00']),
   (['s', 'o', 'f', 't', 'c', 'y', ';'], ['\u044c']), (['s', 'o', 'l', ';'], ['\u002f']),
   (['s', 'o', 'l', 'b', ';'], ['\u29c4']), (['s', 'o', 'l', 'b', 'a', 'r', ';'], ['\u233f']),
   (['s', 'o', 'p', 'f', ';'], [Char.ofNat 0x1d564]),
   (['s', 'p', 'a', 'd', 'e', 's', ';'], ['\u2660']),
   (['s', 'p', 'a', 'd', 'e', 's', 'u', 'i', 't', ';'], ['\u2660']),
   (['s', 'p', 'a', 'r', ';'], ['\u2225']), (['s', 'q', 'c', 'a', 'p', ';'], ['\u2293']),
   (['s', 'q', 'c', 'a', 'p', 's', ';'], ['\u2293', '\ufe00']),
   (['s', 'q', 'c', 'u', 'p', ';'], ['\u2294']),
   (['s', 'q', 'c', 'u', 'p', 's', ';'], ['\u2294', '\ufe00']),
   (['s', 'q', 's', 'u', 'b', ';'], ['\u228f']), (['s', 'q', 's', 'u', 'b', 'e', ';'], ['\u2291']),
   (['s', 'q', 's', 'u', 'b', 's', 'e', 't', ';'], ['\u228f']),
   (['s', 'q', 's', 'u', 'b', 's', 'e', 't', 'e', 'q', ';'], ['\u2291']),
   (['s', 'q', 's', 'u', 'p', ';'], ['\u2290']), (['s', 'q', 's', 'u', 'p', 'e', ';'], ['\u2292']),
   (['s', 'q', 's', 'u', 'p', 's', 'e', 't', ';'], ['\u2290']),
   (['s', 'q', 's', 'u', 'p', 's', 'e', 't', 'e', 'q', ';'], ['\u2292']),
   (['s', 'q', 'u', ';'], ['\u25a1']), (['s', 'q', 'u', 'a', 'r', 'e', ';'], ['\u25a1']),
   (['s', 'q', 'u', 'a', 'r', 'f', ';'], ['\u25aa']), (['s', 'q', 'u', 'f', ';'], ['\u25aa']),
   (['s', 'r', 'a', 'r', 'r', ';'], ['\u2192']), (['s', 's', 'c', 'r', ';'], [Char.ofNat 0x1d4c8]),
   (['s', 's', 'e', 't', 'm', 'n', ';'], ['\u2216']),
   (['s', 's', 'm', 'i', 'l', 'e', ';'], ['\u2323']),
   (['s', 's', 't', 'a', 'r', 'f', ';'], ['\u22c6']), (['s', 't', 'a', 'r', ';'], ['\u2606']),
   (['s', 't', 'a', 'r', 'f', ';'], ['\u2605']),
   (['s', 't', 'r', 'a', 'i', 'g', 'h', 't', 'e', 'p', 's', 'i', 'l', 'o', 'n', ';'], ['\u03f5']),
   (['s', 't', 'r', 'a', 'i', 'g', 'h', 't', 'p', 'h', 'i', ';'], ['\u03d5']),
   (['s', 't', 'r', 'n', 's', ';'], ['\u00af']), (['s', 'u', 'b', ';'], ['\u2282']),
   (['s', 'u', 'b', 'E', ';'], ['\u2ac5']), (['s', 'u', 'b', 'd', 'o', 't', ';'], ['\u2abd']),
   (['s', 'u', 'b', 'e', ';'], ['\u2286']), (['s', 'u', 'b', 'e', 'd', 'o', 't', ';'], ['\u2ac3']),
   (['s', 'u', 'b', 'm', 'u', 'l', 't', ';'], ['\u2ac1']),
   (['s', 'u', 'b', 'n', 'E', ';'], ['\u2acb']), (['s', 'u', 'b', 'n', 'e', ';'], ['\u228a']),
   (['s', 'u', 'b', 'p', 'l', 'u', 's', ';'], ['\u2abf']),
   (['s', 'u', 'b', 'r', 'a', 'r', 'r', ';'], ['\u2979']),
   (['s', 'u', 'b', 's', 'e', 't', ';'], ['\u2282']),
   (['s', 'u', 'b', 's', 'e', 't', 'e', 'q', ';'], ['\u2286']),
   (['s', 'u', 'b', 's', 'e', 't', 'e', 'q', 'q', ';'], ['\u2ac5']),
   (['s', 'u', 'b', 's', 'e', 't', 'n', 'e', 'q', ';'], ['\u228a']),
   (['s', 'u', 'b', 's', 'e', 't', 'n', 'e', 'q', 'q', ';'], ['\u2acb']),
   (['s', 'u', 'b', 's', 'i', 'm', ';'], ['\u2ac7']),
   (['s', 'u', 'b', 's', 'u', 'b', ';'], ['\u2ad5']),
   (['s', 'u', 'b', 's', 'u', 'p', ';'], ['\u2ad3']), (['s', 'u', 'c', 'c', ';'], ['\u227b']),
   (['s', 'u', 'c', 'c', 'a', 'p', 'p', 'r', 'o', 'x', ';'], ['\u2ab8']),
   (['s', 'u', 'c', 'c', 'c', 'u', 'r', 'l', 'y', 'e', 'q', ';'], ['\u227d']),
   (['s', 'u', 'c', 'c', 'e', 'q', ';'], ['\u2ab0']),
   (['s', 'u', 'c', 'c', 'n', 'a', 'p', 'p', 'r', 'o', 'x', ';'], ['\u2aba']),
   (['s', 'u', 'c', 'c', 'n', 'e', 'q', 'q', ';'], ['\u2ab6']),
   (['s', 'u', 'c', 'c', 'n', 's', 'i', 'm', ';'], ['\u22e9']),
   (['s', 'u', 'c', 'c', 's', 'i', 'm', ';'], ['\u227f']), (['s', 'u', 'm', ';'], ['\u2211']),
   (['s', 'u', 'n', 'g', ';'], ['\u266a']), (['s', 'u', 'p', '1'], ['\u00b9']),
   (['s', 'u', 'p', '1', ';'], ['\u00b9']), (['s', 'u', 'p', '2'], ['\u00b2']),
   (['s', 'u', 'p', '2', ';'], ['\u00b2']), (['s', 'u', 'p', '3'], ['\u00b3']),
   (['s', 'u', 'p', '3', ';'], ['\u00b3']), (['s', 'u', 'p', ';'], ['\u2283']),
   (['s', 'u', 'p', 'E', ';'], ['\u2ac6']), (['s', 'u', 'p', 'd', 'o', 't', ';'], ['\u2abe']),
   (['s', 'u', 'p', 'd', 's', 'u', 'b', ';'], ['\u2ad8']), (['s', 'u', 'p', 'e', ';'], ['\u2287']),
   (['s', 'u', 'p', 'e', 'd', 'o', 't', ';'], ['\u2ac4']),
   (['s', 'u', 'p', 'h', 's', 'o', 'l', ';'], ['\u27c9']),
   (['s', 'u', 'p', 'h', 's', 'u', 'b', ';'], ['\u2ad7']),
   (['s', 'u', 'p', 'l', 'a', 'r', 'r', ';'], ['\u297b']),
   (['s', 'u', 'p', 'm', 'u', 'l', 't', ';'], ['\u2ac2']),
   (['s', 'u', 'p', 'n', 'E', ';'], ['\u2acc']), (['s', 'u', 'p', 'n', 'e', ';'], ['\u228b']),
   (['s', 'u', 'p', 'p', 'l', 'u', 's', ';'], ['\u2ac0']),
   (['s', 'u', 'p', 's', 'e', 't', ';'], ['\u2283']),
   (['s', 'u', 'p', 's', 'e', 't', 'e', 'q', ';'], ['\u2287']),
   (['s', 'u', 'p', 's', 'e', 't', 'e', 'q', 'q', ';'], ['\u2ac6']),
   (['s', 'u', 'p', 's', 'e', 't', 'n', 'e', 'q', ';'], ['\u228b']),
   (['s', 'u', 'p', 's', 'e', 't', 'n', 'e', 'q', 'q', ';'], ['\u2acc']),
   (['s', 'u', 'p', 's', 'i', 'm', ';'], ['\u2ac8']),
   (['s', 'u', 'p', 's', 'u', 'b', ';'], ['\u2ad4']),
   (['s', 'u', 'p', 's', 'u', 'p', ';'], ['\u2ad6']), (['s', 'w', 'A', 'r', 'r', ';'], ['\u21d9']),
   (['s', 'w', 'a', 'r', 'h', 'k', ';'], ['\u2926']), (['s', 'w', 'a', 'r', 'r', ';'], ['\u2199']),
   (['s', 'w', 'a', 'r', 'r', 'o', 'w', ';'], ['\u2199']),
   (['s', 'w', 'n', 'w', 'a', 'r', ';'], ['\u292a']), (['s', 'z', 'l', 'i', 'g'], ['\u00df']),
   (['s', 'z', 'l', 'i', 'g', ';'], ['\u00df'])]

/-- Names that begin with `t`. -/
private def lowerT : List (Text × Text) :=
  [(['t', 'a', 'r', 'g', 'e', 't', ';'], ['\u2316']), (['t', 'a', 'u', ';'], ['\u03c4']),
   (['t', 'b', 'r', 'k', ';'], ['\u23b4']), (['t', 'c', 'a', 'r', 'o', 'n', ';'], ['\u0165']),
   (['t', 'c', 'e', 'd', 'i', 'l', ';'], ['\u0163']), (['t', 'c', 'y', ';'], ['\u0442']),
   (['t', 'd', 'o', 't', ';'], ['\u20db']), (['t', 'e', 'l', 'r', 'e', 'c', ';'], ['\u2315']),
   (['t', 'f', 'r', ';'], [Char.ofNat 0x1d531]), (['t', 'h', 'e', 'r', 'e', '4', ';'], ['\u2234']),
   (['t', 'h', 'e', 'r', 'e', 'f', 'o', 'r', 'e', ';'], ['\u2234']),
   (['t', 'h', 'e', 't', 'a', ';'], ['\u03b8']),
   (['t', 'h', 'e', 't', 'a', 's', 'y', 'm', ';'], ['\u03d1']),
   (['t', 'h', 'e', 't', 'a', 'v', ';'], ['\u03d1']),
   (['t', 'h', 'i', 'c', 'k', 'a', 'p', 'p', 'r', 'o', 'x', ';'], ['\u2248']),
   (['t', 'h', 'i', 'c', 'k', 's', 'i', 'm', ';'], ['\u223c']),
   (['t', 'h', 'i', 'n', 's', 'p', ';'], ['\u2009']), (['t', 'h', 'k', 'a', 'p', ';'], ['\u2248']),
   (['t', 'h', 'k', 's', 'i', 'm', ';'], ['\u223c']), (['t', 'h', 'o', 'r', 'n'], ['\u00fe']),
   (['t', 'h', 'o', 'r', 'n', ';'], ['\u00fe']), (['t', 'i', 'l', 'd', 'e', ';'], ['\u02dc']),
   (['t', 'i', 'm', 'e', 's'], ['\u00d7']), (['t', 'i', 'm', 'e', 's', ';'], ['\u00d7']),
   (['t', 'i', 'm', 'e', 's', 'b', ';'], ['\u22a0']),
   (['t', 'i', 'm', 'e', 's', 'b', 'a', 'r', ';'], ['\u2a31']),
   (['t', 'i', 'm', 'e', 's', 'd', ';'], ['\u2a30']), (['t', 'i', 'n', 't', ';'], ['\u222d']),
   (['t', 'o', 'e', 'a', ';'], ['\u2928']), (['t', 'o', 'p', ';'], ['\u22a4']),
   (['t', 'o', 'p', 'b', 'o', 't', ';'], ['\u2336']),
   (['t', 'o', 'p', 'c', 'i', 'r', ';'], ['\u2af1']),
   (['t', 'o', 'p', 'f', ';'], [Char.ofNat 0x1d565]),
   (['t', 'o', 'p', 'f', 'o', 'r', 'k', ';'], ['\u2ada']), (['t', 'o', 's', 'a', ';'], ['\u2929']),
   (['t', 'p', 'r', 'i', 'm', 'e', ';'], ['\u2034']), (['t', 'r', 'a', 'd', 'e', ';'], ['\u2122']),
   (['t', 'r', 'i', 'a', 'n', 'g', 'l', 'e', ';'], ['\u25b5']),
   (['t', 'r', 'i', 'a', 'n', 'g', 'l', 'e', 'd', 'o', 'w', 'n', ';'], ['\u25bf']),
   (['t', 'r', 'i', 'a', 'n', 'g', 'l', 'e', 'l', 'e', 'f', 't', ';'], ['\u25c3']),
   (['t', 'r', 'i', 'a', 'n', 'g', 'l', 'e', 'l', 'e', 'f', 't', 'e', 'q', ';'], ['\u22b4']),
   (['t', 'r', 'i', 'a', 'n', 'g', 'l', 'e', 'q', ';'], ['\u225c']),
   (['t', 'r', 'i', 'a', 'n', 'g', 'l', 'e', 'r', 'i', 'g', 'h', 't', ';'], ['\u25b9']),
   (['t', 'r', 'i', 'a', 'n', 'g', 'l', 'e', 'r', 'i', 'g', 'h', 't', 'e', 'q', ';'], ['\u22b5']),
   (['t', 'r', 'i', 'd', 'o', 't', ';'], ['\u25ec']), (['t', 'r', 'i', 'e', ';'], ['\u225c']),
   (['t', 'r', 'i', 'm', 'i', 'n', 'u', 's', ';'], ['\u2a3a']),
   (['t', 'r', 'i', 'p', 'l', 'u', 's', ';'], ['\u2a39']),
   (['t', 'r', 'i', 's', 'b', ';'], ['\u29cd']),
   (['t', 'r', 'i', 't', 'i', 'm', 'e', ';'], ['\u2a3b']),
   (['t', 'r', 'p', 'e', 'z', 'i', 'u', 'm', ';'], ['\u23e2']),
   (['t', 's', 'c', 'r', ';'], [Char.ofNat 0x1d4c9]), (['t', 's', 'c', 'y', ';'], ['\u0446']),
   (['t', 's', 'h', 'c', 'y', ';'], ['\u045b']), (['t', 's', 't', 'r', 'o', 'k', ';'], ['\u0167']),
   (['t', 'w', 'i', 'x', 't', ';'], ['\u226c']),
   (['t', 'w', 'o', 'h', 'e', 'a', 'd', 'l', 'e', 'f', 't', 'a', 'r', 'r', 'o', 'w', ';'], ['\u219e']),
   (['t', 'w', 'o', 'h', 'e', 'a', 'd', 'r', 'i', 'g', 'h', 't', 'a', 'r', 'r', 'o', 'w', ';'], ['\u21a0'])]

/-- Names that begin with `u`. -/
private def lowerU : List (Text × Text) :=
  [(['u', 'A', 'r', 'r', ';'], ['\u21d1']), (['u', 'H', 'a', 'r', ';'], ['\u2963']),
   (['u', 'a', 'c', 'u', 't', 'e'], ['\u00fa']), (['u', 'a', 'c', 'u', 't', 'e', ';'], ['\u00fa']),
   (['u', 'a', 'r', 'r', ';'], ['\u2191']), (['u', 'b', 'r', 'c', 'y', ';'], ['\u045e']),
   (['u', 'b', 'r', 'e', 'v', 'e', ';'], ['\u016d']), (['u', 'c', 'i', 'r', 'c'], ['\u00fb']),
   (['u', 'c', 'i', 'r', 'c', ';'], ['\u00fb']), (['u', 'c', 'y', ';'], ['\u0443']),
   (['u', 'd', 'a', 'r', 'r', ';'], ['\u21c5']), (['u', 'd', 'b', 'l', 'a', 'c', ';'], ['\u0171']),
   (['u', 'd', 'h', 'a', 'r', ';'], ['\u296e']), (['u', 'f', 'i', 's', 'h', 't', ';'], ['\u297e']),
   (['u', 'f', 'r', ';'], [Char.ofNat 0x1d532]), (['u', 'g', 'r', 'a', 'v', 'e'], ['\u00f9']),
   (['u', 'g', 'r', 'a', 'v', 'e', ';'], ['\u00f9']), (['u', 'h', 'a', 'r', 'l', ';'], ['\u21bf']),
   (['u', 'h', 'a', 'r', 'r', ';'], ['\u21be']), (['u', 'h', 'b', 'l', 'k', ';'], ['\u2580']),
   (['u', 'l', 'c', 'o', 'r', 'n', ';'], ['\u231c']),
   (['u', 'l', 'c', 'o', 'r', 'n', 'e', 'r', ';'], ['\u231c']),
   (['u', 'l', 'c', 'r', 'o', 'p', ';'], ['\u230f']), (['u', 'l', 't', 'r', 'i', ';'], ['\u25f8']),
   (['u', 'm', 'a', 'c', 'r', ';'], ['\u016b']), (['u', 'm', 'l'], ['\u00a8']),
   (['u', 'm', 'l', ';'], ['\u00a8']), (['u', 'o', 'g', 'o', 'n', ';'], ['\u0173']),
   (['u', 'o', 'p', 'f', ';'], [Char.ofNat 0x1d566]),
   (['u', 'p', 'a', 'r', 'r', 'o', 'w', ';'], ['\u2191']),
   (['u', 'p', 'd', 'o', 'w', 'n', 'a', 'r', 'r', 'o', 'w', ';'], ['\u2195']),
   (['u', 'p', 'h', 'a', 'r', 'p', 'o', 'o', 'n', 'l', 'e', 'f', 't', ';'], ['\u21bf']),
   (['u', 'p', 'h', 'a', 'r', 'p', 'o', 'o', 'n', 'r', 'i', 'g', 'h', 't', ';'], ['\u21be']),
   (['u', 'p', 'l', 'u', 's', ';'], ['\u228e']), (['u', 'p', 's', 'i', ';'], ['\u03c5']),
   (['u', 'p', 's', 'i', 'h', ';'], ['\u03d2']),
   (['u', 'p', 's', 'i', 'l', 'o', 'n', ';'], ['\u03c5']),
   (['u', 'p', 'u', 'p', 'a', 'r', 'r', 'o', 'w', 's', ';'], ['\u21c8']),
   (['u', 'r', 'c', 'o', 'r', 'n', ';'], ['\u231d']),
   (['u', 'r', 'c', 'o', 'r', 'n', 'e', 'r', ';'], ['\u231d']),
   (['u', 'r', 'c', 'r', 'o', 'p', ';'], ['\u230e']), (['u', 'r', 'i', 'n', 'g', ';'], ['\u016f']),
   (['u', 'r', 't', 'r', 'i', ';'], ['\u25f9']), (['u', 's', 'c', 'r', ';'], [Char.ofNat 0x1d4ca]),
   (['u', 't', 'd', 'o', 't', ';'], ['\u22f0']), (['u', 't', 'i', 'l', 'd', 'e', ';'], ['\u0169']),
   (['u', 't', 'r', 'i', ';'], ['\u25b5']), (['u', 't', 'r', 'i', 'f', ';'], ['\u25b4']),
   (['u', 'u', 'a', 'r', 'r', ';'], ['\u21c8']), (['u', 'u', 'm', 'l'], ['\u00fc']),
   (['u', 'u', 'm', 'l', ';'], ['\u00fc']), (['u', 'w', 'a', 'n', 'g', 'l', 'e', ';'], ['\u29a7'])]

/-- Names that begin with `v`. -/
private def lowerV : List (Text × Text) :=
  [(['v', 'A', 'r', 'r', ';'], ['\u21d5']), (['v', 'B', 'a', 'r', ';'], ['\u2ae8']),
   (['v', 'B', 'a', 'r', 'v', ';'], ['\u2ae9']), (['v', 'D', 'a', 's', 'h', ';'], ['\u22a8']),
   (['v', 'a', 'n', 'g', 'r', 't', ';'], ['\u299c']),
   (['v', 'a', 'r', 'e', 'p', 's', 'i', 'l', 'o', 'n', ';'], ['\u03f5']),
   (['v', 'a', 'r', 'k', 'a', 'p', 'p', 'a', ';'], ['\u03f0']),
   (['v', 'a', 'r', 'n', 'o', 't', 'h', 'i', 'n', 'g', ';'], ['\u2205']),
   (['v', 'a', 'r', 'p', 'h', 'i', ';'], ['\u03d5']), (['v', 'a', 'r', 'p', 'i', ';'], ['\u03d6']),
   (['v', 'a', 'r', 'p', 'r', 'o', 'p', 't', 'o', ';'], ['\u221d']),
   (['v', 'a', 'r', 'r', ';'], ['\u2195']), (['v', 'a', 'r', 'r', 'h', 'o', ';'], ['\u03f1']),
   (['v', 'a', 'r', 's', 'i', 'g', 'm', 'a', ';'], ['\u03c2']),
   (['v', 'a', 'r', 's', 'u', 'b', 's', 'e', 't', 'n', 'e', 'q', ';'], ['\u228a', '\ufe00']),
   (['v', 'a', 'r', 's', 'u', 'b', 's', 'e', 't', 'n', 'e', 'q', 'q', ';'], ['\u2acb', '\ufe00']),
   (['v', 'a', 'r', 's', 'u', 'p', 's', 'e', 't', 'n', 'e', 'q', ';'], ['\u228b', '\ufe00']),
   (['v', 'a', 'r', 's', 'u', 'p', 's', 'e', 't', 'n', 'e', 'q', 'q', ';'], ['\u2acc', '\ufe00']),
   (['v', 'a', 'r', 't', 'h', 'e', 't', 'a', ';'], ['\u03d1']),
   (['v', 'a', 'r', 't', 'r', 'i', 'a', 'n', 'g', 'l', 'e', 'l', 'e', 'f', 't', ';'], ['\u22b2']),
   (['v', 'a', 'r', 't', 'r', 'i', 'a', 'n', 'g', 'l', 'e', 'r', 'i', 'g', 'h', 't', ';'], ['\u22b3']),
   (['v', 'c', 'y', ';'], ['\u0432']), (['v', 'd', 'a', 's', 'h', ';'], ['\u22a2']),
   (['v', 'e', 'e', ';'], ['\u2228']), (['v', 'e', 'e', 'b', 'a', 'r', ';'], ['\u22bb']),
   (['v', 'e', 'e', 'e', 'q', ';'], ['\u225a']), (['v', 'e', 'l', 'l', 'i', 'p', ';'], ['\u22ee']),
   (['v', 'e', 'r', 'b', 'a', 'r', ';'], ['\u007c']), (['v', 'e', 'r', 't', ';'], ['\u007c']),
   (['v', 'f', 'r', ';'], [Char.ofNat 0x1d533]), (['v', 'l', 't', 'r', 'i', ';'], ['\u22b2']),
   (['v', 'n', 's', 'u', 'b', ';'], ['\u2282', '\u20d2']),
   (['v', 'n', 's', 'u', 'p', ';'], ['\u2283', '\u20d2']),
   (['v', 'o', 'p', 'f', ';'], [Char.ofNat 0x1d567]), (['v', 'p', 'r', 'o', 'p', ';'], ['\u221d']),
   (['v', 'r', 't', 'r', 'i', ';'], ['\u22b3']), (['v', 's', 'c', 'r', ';'], [Char.ofNat 0x1d4cb]),
   (['v', 's', 'u', 'b', 'n', 'E', ';'], ['\u2acb', '\ufe00']),
   (['v', 's', 'u', 'b', 'n', 'e', ';'], ['\u228a', '\ufe00']),
   (['v', 's', 'u', 'p', 'n', 'E', ';'], ['\u2acc', '\ufe00']),
   (['v', 's', 'u', 'p', 'n', 'e', ';'], ['\u228b', '\ufe00']),
   (['v', 'z', 'i', 'g', 'z', 'a', 'g', ';'], ['\u299a'])]

/-- Names that begin with `w`. -/
private def lowerW : List (Text × Text) :=
  [(['w', 'c', 'i', 'r', 'c', ';'], ['\u0175']), (['w', 'e', 'd', 'b', 'a', 'r', ';'], ['\u2a5f']),
   (['w', 'e', 'd', 'g', 'e', ';'], ['\u2227']), (['w', 'e', 'd', 'g', 'e', 'q', ';'], ['\u2259']),
   (['w', 'e', 'i', 'e', 'r', 'p', ';'], ['\u2118']), (['w', 'f', 'r', ';'], [Char.ofNat 0x1d534]),
   (['w', 'o', 'p', 'f', ';'], [Char.ofNat 0x1d568]), (['w', 'p', ';'], ['\u2118']),
   (['w', 'r', ';'], ['\u2240']), (['w', 'r', 'e', 'a', 't', 'h', ';'], ['\u2240']),
   (['w', 's', 'c', 'r', ';'], [Char.ofNat 0x1d4cc])]

/-- Names that begin with `x`. -/
private def lowerX : List (Text × Text) :=
  [(['x', 'c', 'a', 'p', ';'], ['\u22c2']), (['x', 'c', 'i', 'r', 'c', ';'], ['\u25ef']),
   (['x', 'c', 'u', 'p', ';'], ['\u22c3']), (['x', 'd', 't', 'r', 'i', ';'], ['\u25bd']),
   (['x', 'f', 'r', ';'], [Char.ofNat 0x1d535]), (['x', 'h', 'A', 'r', 'r', ';'], ['\u27fa']),
   (['x', 'h', 'a', 'r', 'r', ';'], ['\u27f7']), (['x', 'i', ';'], ['\u03be']),
   (['x', 'l', 'A', 'r', 'r', ';'], ['\u27f8']), (['x', 'l', 'a', 'r', 'r', ';'], ['\u27f5']),
   (['x', 'm', 'a', 'p', ';'], ['\u27fc']), (['x', 'n', 'i', 's', ';'], ['\u22fb']),
   (['x', 'o', 'd', 'o', 't', ';'], ['\u2a00']), (['x', 'o', 'p', 'f', ';'], [Char.ofNat 0x1d569]),
   (['x', 'o', 'p', 'l', 'u', 's', ';'], ['\u2a01']),
   (['x', 'o', 't', 'i', 'm', 'e', ';'], ['\u2a02']), (['x', 'r', 'A', 'r', 'r', ';'], ['\u27f9']),
   (['x', 'r', 'a', 'r', 'r', ';'], ['\u27f6']), (['x', 's', 'c', 'r', ';'], [Char.ofNat 0x1d4cd]),
   (['x', 's', 'q', 'c', 'u', 'p', ';'], ['\u2a06']),
   (['x', 'u', 'p', 'l', 'u', 's', ';'], ['\u2a04']), (['x', 'u', 't', 'r', 'i', ';'], ['\u25b3']),
   (['x', 'v', 'e', 'e', ';'], ['\u22c1']), (['x', 'w', 'e', 'd', 'g', 'e', ';'], ['\u22c0'])]

/-- Names that begin with `y`. -/
private def lowerY : List (Text × Text) :=
  [(['y', 'a', 'c', 'u', 't', 'e'], ['\u00fd']), (['y', 'a', 'c', 'u', 't', 'e', ';'], ['\u00fd']),
   (['y', 'a', 'c', 'y', ';'], ['\u044f']), (['y', 'c', 'i', 'r', 'c', ';'], ['\u0177']),
   (['y', 'c', 'y', ';'], ['\u044b']), (['y', 'e', 'n'], ['\u00a5']),
   (['y', 'e', 'n', ';'], ['\u00a5']), (['y', 'f', 'r', ';'], [Char.ofNat 0x1d536]),
   (['y', 'i', 'c', 'y', ';'], ['\u0457']), (['y', 'o', 'p', 'f', ';'], [Char.ofNat 0x1d56a]),
   (['y', 's', 'c', 'r', ';'], [Char.ofNat 0x1d4ce]), (['y', 'u', 'c', 'y', ';'], ['\u044e']),
   (['y', 'u', 'm', 'l'], ['\u00ff']), (['y', 'u', 'm', 'l', ';'], ['\u00ff'])]

/-- Names that begin with `z`. -/
private def lowerZ : List (Text × Text) :=
  [(['z', 'a', 'c', 'u', 't', 'e', ';'], ['\u017a']),
   (['z', 'c', 'a', 'r', 'o', 'n', ';'], ['\u017e']), (['z', 'c', 'y', ';'], ['\u0437']),
   (['z', 'd', 'o', 't', ';'], ['\u017c']), (['z', 'e', 'e', 't', 'r', 'f', ';'], ['\u2128']),
   (['z', 'e', 't', 'a', ';'], ['\u03b6']), (['z', 'f', 'r', ';'], [Char.ofNat 0x1d537]),
   (['z', 'h', 'c', 'y', ';'], ['\u0436']), (['z', 'i', 'g', 'r', 'a', 'r', 'r', ';'], ['\u21dd']),
   (['z', 'o', 'p', 'f', ';'], [Char.ofNat 0x1d56b]),
   (['z', 's', 'c', 'r', ';'], [Char.ofNat 0x1d4cf]), (['z', 'w', 'j', ';'], ['\u200d']),
   (['z', 'w', 'n', 'j', ';'], ['\u200c'])]

/-- Every name, in the order of its characters. -/
def names : List (Text × Text) :=
  upperA ++ upperB ++ upperC ++ upperD ++ upperE ++ upperF ++ upperG ++ upperH ++
  upperI ++ upperJ ++ upperK ++ upperL ++ upperM ++ upperN ++ upperO ++ upperP ++
  upperQ ++ upperR ++ upperS ++ upperT ++ upperU ++ upperV ++ upperW ++ upperX ++
  upperY ++ upperZ ++ lowerA ++ lowerB ++ lowerC ++ lowerD ++ lowerE ++ lowerF ++
  lowerG ++ lowerH ++ lowerI ++ lowerJ ++ lowerK ++ lowerL ++ lowerM ++ lowerN ++
  lowerO ++ lowerP ++ lowerQ ++ lowerR ++ lowerS ++ lowerT ++ lowerU ++ lowerV ++
  lowerW ++ lowerX ++ lowerY ++ lowerZ

end Reference

end SingleFile
