import IndexKeeper.Text.CombiningClass

/-!
# Composed characters

A letter with its marks is one character or several that mean the same.  `compose` brings a text
into its composed form, the canonical one: every character is taken apart, marks are put into the
order of their classes, and each is joined to the character before it where there is one character
for both.  Syllables of Hangul are computed; the table of the others is that of Unicode 17, for the
characters that can stand in a domain name.
-/

namespace IndexKeeper.Composite

/-- The pairs that a word of the table gives: the characters from some character on, each with the
two that it is composed of. -/
def pairsOfWord (word : List Char) : List (Nat × Nat × Nat) :=
  let (first, parts) := splitFirst (· == '=') word
  ((splitChars (· == '.') (parts.getD [])).zipIdx (hexNumber first)).map fun (pair, n) =>
    let (a, b) := splitFirst (· == '_') pair
    (n, hexNumber a, hexNumber (b.getD []))

/-- The composed characters, each with the two that it is composed of. -/
def table : List (Nat × Nat × Nat) := (tableWords
  ["e0=61_300.61_301.61_302.61_303.61_308.61_30a",
   "e7=63_327.65_300.65_301.65_302.65_308.69_300.69_301.69_302.69_308",
   "f1=6e_303.6f_300.6f_301.6f_302.6f_303.6f_308 f9=75_300.75_301.75_302.75_308.79_301 ff=79_308",
   "101=61_304 103=61_306 105=61_328 107=63_301 109=63_302 10b=63_307 10d=63_30c 10f=64_30c",
   "113=65_304 115=65_306 117=65_307 119=65_328 11b=65_30c 11d=67_302 11f=67_306 121=67_307",
   "123=67_327 125=68_302 129=69_303 12b=69_304 12d=69_306 12f=69_328 135=6a_302 137=6b_327",
   "13a=6c_301 13c=6c_327 13e=6c_30c 144=6e_301 146=6e_327 148=6e_30c 14d=6f_304 14f=6f_306",
   "151=6f_30b 155=72_301 157=72_327 159=72_30c 15b=73_301 15d=73_302 15f=73_327 161=73_30c",
   "163=74_327 165=74_30c 169=75_303 16b=75_304 16d=75_306 16f=75_30a 171=75_30b 173=75_328",
   "175=77_302 177=79_302 17a=7a_301 17c=7a_307 17e=7a_30c 1a1=6f_31b 1b0=75_31b 1ce=61_30c",
   "1d0=69_30c 1d2=6f_30c 1d4=75_30c 1d6=fc_304 1d8=fc_301 1da=fc_30c 1dc=fc_300 1df=e4_304",
   "1e1=227_304 1e3=e6_304 1e7=67_30c 1e9=6b_30c 1eb=6f_328 1ed=1eb_304 1ef=292_30c.6a_30c",
   "1f5=67_301 1f9=6e_300 1fb=e5_301 1fd=e6_301 1ff=f8_301 201=61_30f 203=61_311 205=65_30f",
   "207=65_311 209=69_30f 20b=69_311 20d=6f_30f 20f=6f_311 211=72_30f 213=72_311 215=75_30f",
   "217=75_311 219=73_326 21b=74_326 21f=68_30c 227=61_307 229=65_327 22b=f6_304 22d=f5_304",
   "22f=6f_307 231=22f_304 233=79_304 390=3ca_301 3ac=3b1_301.3b5_301.3b7_301.3b9_301.3cb_301",
   "3ca=3b9_308.3c5_308.3bf_301.3c5_301.3c9_301 439=438_306 450=435_300.435_308 453=433_301",
   "457=456_308 45c=43a_301.438_300.443_306 477=475_30f 4c2=436_306 4d1=430_306 4d3=430_308",
   "4d7=435_306 4db=4d9_308 4dd=436_308 4df=437_308 4e3=438_304 4e5=438_308 4e7=43e_308",
   "4eb=4e9_308 4ed=44d_308 4ef=443_304 4f1=443_308 4f3=443_30b 4f5=447_308 4f9=44b_308",
   "622=627_653.627_654.648_654.627_655.64a_654 6c0=6d5_654 6c2=6c1_654 6d3=6d2_654 929=928_93c",
   "931=930_93c 934=933_93c 9cb=9c7_9be.9c7_9d7 b48=b47_b56 b4b=b47_b3e.b47_b57 b94=b92_bd7",
   "bca=bc6_bbe.bc7_bbe.bc6_bd7 c48=c46_c56 cc0=cbf_cd5 cc7=cc6_cd5.cc6_cd6 cca=cc6_cc2.cca_cd5",
   "d4a=d46_d3e.d47_d3e.d46_d57 dda=dd9_dca ddc=dd9_dcf.ddc_dca.dd9_ddf 1026=1025_102e",
   "1b06=1b05_1b35 1b08=1b07_1b35 1b0a=1b09_1b35 1b0c=1b0b_1b35 1b0e=1b0d_1b35 1b12=1b11_1b35",
   "1b3b=1b3a_1b35 1b3d=1b3c_1b35 1b40=1b3e_1b35.1b3f_1b35 1b43=1b42_1b35 1e01=61_325 1e03=62_307",
   "1e05=62_323 1e07=62_331 1e09=e7_301 1e0b=64_307 1e0d=64_323 1e0f=64_331 1e11=64_327",
   "1e13=64_32d 1e15=113_300 1e17=113_301 1e19=65_32d 1e1b=65_330 1e1d=229_306 1e1f=66_307",
   "1e21=67_304 1e23=68_307 1e25=68_323 1e27=68_308 1e29=68_327 1e2b=68_32e 1e2d=69_330",
   "1e2f=ef_301 1e31=6b_301 1e33=6b_323 1e35=6b_331 1e37=6c_323 1e39=1e37_304 1e3b=6c_331",
   "1e3d=6c_32d 1e3f=6d_301 1e41=6d_307 1e43=6d_323 1e45=6e_307 1e47=6e_323 1e49=6e_331",
   "1e4b=6e_32d 1e4d=f5_301 1e4f=f5_308 1e51=14d_300 1e53=14d_301 1e55=70_301 1e57=70_307",
   "1e59=72_307 1e5b=72_323 1e5d=1e5b_304 1e5f=72_331 1e61=73_307 1e63=73_323 1e65=15b_307",
   "1e67=161_307 1e69=1e63_307 1e6b=74_307 1e6d=74_323 1e6f=74_331 1e71=74_32d 1e73=75_324",
   "1e75=75_330 1e77=75_32d 1e79=169_301 1e7b=16b_308 1e7d=76_303 1e7f=76_323 1e81=77_300",
   "1e83=77_301 1e85=77_308 1e87=77_307 1e89=77_323 1e8b=78_307 1e8d=78_308 1e8f=79_307",
   "1e91=7a_302 1e93=7a_323 1e95=7a_331.68_331.74_308.77_30a.79_30a 1ea1=61_323 1ea3=61_309",
   "1ea5=e2_301 1ea7=e2_300 1ea9=e2_309 1eab=e2_303 1ead=1ea1_302 1eaf=103_301 1eb1=103_300",
   "1eb3=103_309 1eb5=103_303 1eb7=1ea1_306 1eb9=65_323 1ebb=65_309 1ebd=65_303 1ebf=ea_301",
   "1ec1=ea_300 1ec3=ea_309 1ec5=ea_303 1ec7=1eb9_302 1ec9=69_309 1ecb=69_323 1ecd=6f_323",
   "1ecf=6f_309 1ed1=f4_301 1ed3=f4_300 1ed5=f4_309 1ed7=f4_303 1ed9=1ecd_302 1edb=1a1_301",
   "1edd=1a1_300 1edf=1a1_309 1ee1=1a1_303 1ee3=1a1_323 1ee5=75_323 1ee7=75_309 1ee9=1b0_301",
   "1eeb=1b0_300 1eed=1b0_309 1eef=1b0_303 1ef1=1b0_323 1ef3=79_300 1ef5=79_323 1ef7=79_309",
   "1ef9=79_303 1f00=3b1_313.3b1_314.1f00_300.1f01_300.1f00_301.1f01_301.1f00_342.1f01_342",
   "1f10=3b5_313.3b5_314.1f10_300.1f11_300.1f10_301.1f11_301",
   "1f20=3b7_313.3b7_314.1f20_300.1f21_300.1f20_301.1f21_301.1f20_342.1f21_342",
   "1f30=3b9_313.3b9_314.1f30_300.1f31_300.1f30_301.1f31_301.1f30_342.1f31_342",
   "1f40=3bf_313.3bf_314.1f40_300.1f41_300.1f40_301.1f41_301",
   "1f50=3c5_313.3c5_314.1f50_300.1f51_300.1f50_301.1f51_301.1f50_342.1f51_342",
   "1f60=3c9_313.3c9_314.1f60_300.1f61_300.1f60_301.1f61_301.1f60_342.1f61_342 1f70=3b1_300",
   "1f72=3b5_300 1f74=3b7_300 1f76=3b9_300 1f78=3bf_300 1f7a=3c5_300 1f7c=3c9_300",
   "1fb0=3b1_306.3b1_304 1fb6=3b1_342 1fc6=3b7_342 1fd0=3b9_306.3b9_304.3ca_300",
   "1fd6=3b9_342.3ca_342 1fe0=3c5_306.3c5_304.3cb_300 1fe4=3c1_313.3c1_314.3c5_342.3cb_342",
   "1ff6=3c9_342 219a=2190_338.2192_338 21ae=2194_338 21cd=21d0_338.21d4_338.21d2_338",
   "2204=2203_338 2209=2208_338 220c=220b_338 2224=2223_338 2226=2225_338 2241=223c_338",
   "2244=2243_338 2247=2245_338 2249=2248_338 2260=3d_338 2262=2261_338",
   "226d=224d_338.3c_338.3e_338.2264_338.2265_338 2274=2272_338.2273_338 2278=2276_338.2277_338",
   "2280=227a_338.227b_338 2284=2282_338.2283_338 2288=2286_338.2287_338",
   "22ac=22a2_338.22a8_338.22a9_338.22ab_338 22e0=227c_338.227d_338.2291_338.2292_338",
   "22ea=22b2_338.22b3_338.22b4_338.22b5_338 304c=304b_3099 304e=304d_3099 3050=304f_3099",
   "3052=3051_3099 3054=3053_3099 3056=3055_3099 3058=3057_3099 305a=3059_3099 305c=305b_3099",
   "305e=305d_3099 3060=305f_3099 3062=3061_3099 3065=3064_3099 3067=3066_3099 3069=3068_3099",
   "3070=306f_3099.306f_309a 3073=3072_3099.3072_309a 3076=3075_3099.3075_309a",
   "3079=3078_3099.3078_309a 307c=307b_3099.307b_309a 3094=3046_3099 309e=309d_3099",
   "30ac=30ab_3099 30ae=30ad_3099 30b0=30af_3099 30b2=30b1_3099 30b4=30b3_3099 30b6=30b5_3099",
   "30b8=30b7_3099 30ba=30b9_3099 30bc=30bb_3099 30be=30bd_3099 30c0=30bf_3099 30c2=30c1_3099",
   "30c5=30c4_3099 30c7=30c6_3099 30c9=30c8_3099 30d0=30cf_3099.30cf_309a",
   "30d3=30d2_3099.30d2_309a 30d6=30d5_3099.30d5_309a 30d9=30d8_3099.30d8_309a",
   "30dc=30db_3099.30db_309a 30f4=30a6_3099 30f7=30ef_3099.30f0_3099.30f1_3099.30f2_3099",
   "30fe=30fd_3099 105c9=105d2_307 105e4=105da_307 1109a=11099_110ba 1109c=1109b_110ba",
   "110ab=110a5_110ba 1112e=11131_11127.11132_11127 1134b=11347_1133e.11347_11357",
   "11383=11382_113c9 11385=11384_113bb 1138e=1138b_113c2 11391=11390_113c9 113c5=113c2_113c2",
   "113c7=113c2_113b8.113c2_113c9 114bb=114b9_114ba.114b9_114b0 114be=114b9_114bd",
   "115ba=115b8_115af.115b9_115af 11938=11935_11930",
   "16121=1611e_1611e.1611e_16129.1611e_1611f.16129_1611f.1611e_16120.16121_1611f",
   "16127=16122_1611f.16121_16120 16d68=16d67_16d67.16d63_16d67.16d69_16d67"]).flatMap pairsOfWord

/-! ## Hangul -/

/-- The first syllable. -/
def syllables : Nat := 0xAC00

/-- The first letter that starts a syllable. -/
def leads : Nat := 0x1100

/-- The first letter that stands in the middle of a syllable. -/
def vowels : Nat := 0x1161

/-- The number before that of the first letter that ends a syllable. -/
def tails : Nat := 0x11A7

/-- How many letters start a syllable. -/
def leadCount : Nat := 19

/-- How many letters stand in the middle of a syllable. -/
def vowelCount : Nat := 21

/-- How many endings a syllable can have; one of them is none. -/
def tailCount : Nat := 28

/-- Whether a number is one of so many from some number on. -/
def isWithin (first count n : Nat) : Bool := first ≤ n && n < first + count

/-- Whether a character is a syllable. -/
def isSyllable (n : Nat) : Bool := isWithin syllables (leadCount * vowelCount * tailCount) n

/-- The two characters that a syllable is composed of. -/
def splitSyllable (n : Nat) : Nat × Nat :=
  let i := n - syllables
  if i % tailCount = 0 then
    (leads + i / tailCount / vowelCount, vowels + i / tailCount % vowelCount)
  else (n - i % tailCount, tails + i % tailCount)

/-- The syllable composed of two characters. -/
def syllable? (a b : Nat) : Option Nat :=
  if isWithin leads leadCount a && isWithin vowels vowelCount b then
    some (syllables + ((a - leads) * vowelCount + (b - vowels)) * tailCount)
  else if isSyllable a && (a - syllables) % tailCount == 0 &&
      isWithin (tails + 1) (tailCount - 1) b then some (a + (b - tails))
  else none

/-! ## Taking apart and joining -/

/-- The two characters that a character is composed of. -/
def split? (n : Nat) : Option (Nat × Nat) :=
  if isSyllable n then some (splitSyllable n) else table.lookup n

/-- The character composed of two. -/
def join? (a b : Nat) : Option Nat :=
  match syllable? a b with
  | some n => some n
  | none => (table.find? fun (_, pair) => pair == (a, b)).map (·.1)

/-- The most steps in which a character comes apart. -/
def maxDepth : Nat := 4

/-- The characters that a character comes apart into, in at most so many steps. -/
def partsOf : Nat → Nat → List Nat
  | 0, n => [n]
  | depth + 1, n =>
    match split? n with
    | none => [n]
    | some (a, b) => partsOf depth a ++ partsOf depth b

/-- Put a mark behind those of no greater class at the end of some characters in reverse. -/
def insertMark (c : Nat × Nat) : List (Nat × Nat) → List (Nat × Nat)
  | [] => [c]
  | d :: rest => if c.2 != 0 && c.2 < d.2 then d :: insertMark c rest else c :: d :: rest

/-- Characters with their classes, the marks in the order of their classes. -/
def ordered (ns : List Nat) : List (Nat × Nat) :=
  (ns.foldl (fun done n => insertMark (n, combiningClass (Char.ofNat n)) done) []).reverse

/-- Characters joined, those before the last that starts anew in reverse, that one, and the marks
after it that could not be joined to it. -/
structure Joined where
  before : List Nat := []
  starter? : Option Nat := none
  marks : List (Nat × Nat) := []

namespace Joined

/-- All the characters in order. -/
def toList (j : Joined) : List Nat := j.before.reverse ++ j.starter?.toList ++ j.marks.map (·.1)

/-- The character that the next one makes with the one that started last.  Marks between them of its
class or a greater one keep it away. -/
def with? (j : Joined) (c : Nat × Nat) : Option Nat :=
  if (j.marks.getLast?.map (·.2)).all (· < c.2) then j.starter?.bind (join? · c.1) else none

/-- The characters with one more. -/
def push (j : Joined) (c : Nat × Nat) : Joined :=
  match j.with? c with
  | some n => { j with starter? := some n }
  | none =>
    if c.2 = 0 then ⟨j.toList.reverse, some c.1, []⟩ else { j with marks := j.marks ++ [c] }

end Joined

/-- The composed form of a text. -/
def compose (cs : List Char) : List Char :=
  let parts := cs.flatMap fun c => partsOf maxDepth c.toNat
  ((ordered parts).foldl Joined.push {}).toList.map Char.ofNat

end IndexKeeper.Composite
