import IdResolution.Text.Runs

/-!
# Canonical pairs

The characters that are canonically the same as a pair of others: most are letters
with a mark, which the table lists, and the syllables of Hangul follow a rule.
-/

namespace IdResolution.Text

/-- A character and the pair that it composes. -/
structure CanonicalPair where
  first : Nat
  second : Nat
  whole : Nat
  deriving DecidableEq, Repr

/-- The pairs by their second character.  A run gives that character, and then by
turns a first character and what the two compose. -/
def compositionText : String := "

O0,21,60,25,68,29,6C,2F,6I,2L,6P,31,70,35,78,39,7C,3F,7I,3L,7P,6S,ER,7S,ES,2E,FO,3E,FP,10L,100,
10O,10D,11L,12G,11O,12T,8I,7GK,8J,7GL,AC,7IG,AD,7IH,2N,7K0,3N,7K1,62,7L6,72,7L7,82,7LG,83,7LH,
6A,7M0,7A,7M1,6K,7MI,7K,7MJ,D0,7MS,D1,7MT,DF,7NA,DG,7NB,2P,7NI,3P,7NJ,7O0,7O2,7O1,7O3,7O8,7OA,
7O9,7OB,7OG,7OI,7OH,7OJ,7OO,7OQ,7OP,7OR,7P0,7P2,7P1,7P3,7P8,7PA,7P9,7PB,7PG,7PI,7PH,7PJ,7PO,7PQ,
7PP,7PR,7Q0,7Q2,7Q1,7Q3,7Q8,7QA,7Q9,7QB,7QG,7QI,7QH,7QJ,7QP,7QR,7R0,7R2,7R1,7R3,7R8,7RA,7R9,7RB,
TH,7RG,TL,7RI,TN,7RK,TP,7RM,TV,7RO,U5,7RQ,U9,7RS,SH,7TQ,SL,7U8,SN,7UA,7TV,7UD,UA,7UI,SP,7UQ,7VU,
7UT,UB,7V2,T5,7VA,58,7VD,SV,7VO,T9,7VQc
O1,21,61,25,69,29,6D,2F,6J,2L,6Q,2P,6T,31,71,35,79,39,7D,3F,7J,3L,7Q,3P,7T,23,86,33,87,2C,9P,3C,
9Q,2E,A3,3E,A4,2I,AK,3I,AL,2J,AQ,3J,AR,2Q,BP,3Q,BQ,6S,EN,7S,EO,27,FK,37,FL,65,FQ,75,FR,66,FS,76,
FT,6O,FU,7O,FV,58,S5,SH,S6,SL,S8,SN,S9,SP,SA,SV,SC,T5,SE,T9,SF,UA,SG,TH,TC,TL,TD,TN,TE,TP,TF,UB,
TG,TV,UC,U5,UD,U9,UE,UI,UJ,10J,103,10Q,10C,11J,12J,11Q,12S,67,7G8,77,7G9,8I,7GM,8J,7GN,6F,7HE,
7F,7HF,2B,7HG,3B,7HH,2D,7HU,3D,7HV,6L,7IC,7L,7ID,AC,7II,AD,7IJ,2G,7IK,3G,7IL,B8,7JO,B9,7JP,2N,
7K2,3N,7K3,62,7L4,72,7L5,82,7LE,83,7LF,6A,7LU,7A,7LV,6K,7MG,7K,7MH,D0,7MQ,D1,7MR,DF,7N8,DG,7N9,
7O0,7O4,7O1,7O5,7O8,7OC,7O9,7OD,7OG,7OK,7OH,7OL,7OO,7OS,7OP,7OT,7P0,7P4,7P1,7P5,7P8,7PC,7P9,7PD,
7PG,7PK,7PH,7PL,7PO,7PS,7PP,7PT,7Q0,7Q4,7Q1,7Q5,7Q8,7QC,7Q9,7QD,7QG,7QK,7QH,7QL,7QP,7QT,7R0,7R4,
7R1,7R5,7R8,7RC,7R9,7RD,7TV,7UE,7VU,7UUc
O2,21,62,25,6A,29,6E,2F,6K,2L,6R,31,72,35,7A,39,7E,3F,7K,3L,7R,23,88,33,89,27,8S,37,8T,28,94,38,
95,2A,9K,3A,9L,2J,AS,3J,AT,2N,BK,3N,BL,2P,BM,3P,BN,2Q,7KG,3Q,7KH,7L0,7LC,7L1,7LD,7LO,7M6,7LP,
7M7,7MC,7MO,7MD,7MPc
O3,21,63,2E,6H,2F,6L,31,73,3E,7H,3F,7L,29,98,39,99,2L,B8,3L,B9,2M,7JS,3M,7JT,62,7LA,72,7LB,82,
7LK,83,7LL,25,7LS,35,7LT,6A,7M4,7A,7M5,6K,7MM,7K,7MN,D0,7N0,D1,7N1,DF,7NE,DG,7NF,2P,7NO,3P,7NPc
O4,21,80,31,81,25,8I,35,8J,29,9A,39,9B,2F,AC,3F,AD,2L,BA,3L,BB,6S,EL,7S,EM,64,EU,74,EV,H6,F0,H7,
F1,66,F2,76,F3,FA,FC,FB,FD,6M,HA,7M,HB,6L,HC,7L,HD,HE,HG,HF,HH,2P,HI,3P,HJ,10O,172,11O,173,113,
17E,123,17F,27,7H0,37,7H1,7HM,7HO,7HN,7HP,7IQ,7IS,7IR,7IT,TH,7TH,SH,7TP,TP,7UH,SP,7UP,U5,7V1,T5,
7V9c
O6,21,82,31,83,25,8K,35,8L,27,8U,37,8V,29,9C,39,9D,2F,AE,3F,AF,2L,BC,3L,BD,113,10E,10O,10P,11O,
11P,123,12U,10M,161,11M,162,10G,16G,11G,16H,10L,16M,11L,16N,H8,7GS,H9,7GT,7L0,7LM,7L1,7LN,TH,
7TG,SH,7TO,TP,7UG,SP,7UO,U5,7V0,T5,7V8c
O7,23,8A,33,8B,25,8M,35,8N,27,90,37,91,29,9G,2Q,BR,3Q,BS,21,H6,31,H7,2F,HE,3F,HF,22,7G2,32,7G3,
24,7GA,34,7GB,26,7GU,36,7GV,28,7H2,38,7H3,2D,7I0,3D,7I1,2E,7I4,3E,7I5,2G,7IM,3G,7IN,2I,7IO,3I,
7IP,2J,7J0,3J,7J1,AQ,7J4,AR,7J5,B0,7J6,B1,7J7,7J2,7J8,7J3,7J9,2K,7JA,3K,7JB,2N,7K6,3N,7K7,2O,
7KA,3O,7KB,2P,7KE,3P,7KF,BV,7KRc
O8,21,64,25,6B,29,6F,2F,6M,2L,6S,31,74,35,7B,39,7F,3F,7M,3L,7S,3P,7V,2P,BO,SP,TA,T5,TB,TP,UA,U5,
UB,UI,UK,10L,101,106,107,11L,12H,12M,12N,10G,16I,11G,16J,16O,16Q,16P,16R,10M,16S,11M,16T,10N,
16U,11N,16V,10O,174,11O,175,10U,176,11U,177,178,17A,179,17B,11D,17C,12D,17D,113,17G,123,17H,117,
17K,127,17L,11B,17O,12B,17P,28,7H6,38,7H7,6L,7IE,7L,7IF,BA,7JQ,BB,7JR,2N,7K4,3N,7K5,2O,7KC,3O,
7KD,3K,7KNc
O9,21,7L2,31,7L3,62,7L8,72,7L9,82,7LI,83,7LJ,25,7LQ,35,7LR,6A,7M2,7A,7M3,29,7M8,39,7M9,2F,7ME,
3F,7MF,6K,7MK,7K,7ML,D0,7MU,D1,7MV,2L,7N6,3L,7N7,DF,7NC,DG,7ND,2P,7NM,3P,7NNc
OA,21,65,31,75,2L,BE,3L,BF,3N,7KO,3P,7KPcOB,2F,AG,3F,AH,2L,BG,3L,BH,113,17I,123,17Jc
OC,23,8C,33,8D,24,8E,34,8F,25,8Q,35,8R,2C,9T,3C,9U,2E,A7,3E,A8,2I,AO,3I,AP,2J,B0,3J,B1,2K,B4,3K,
B5,2Q,BT,3Q,BU,21,ED,31,EE,29,EF,39,EG,2F,EH,3F,EI,2L,EJ,3L,EK,6S,EP,7S,EQ,27,F6,37,F7,2B,F8,3B,
F9,DN,FE,KI,FF,3A,FG,28,GU,38,GVc
OF,21,G0,31,G1,25,G4,35,G5,29,G8,39,G9,2F,GC,3F,GD,2I,GG,3I,GH,2L,GK,3L,GL,13K,13M,13L,13Nc
OH,21,G2,31,G3,25,G6,35,G7,29,GA,39,GB,2F,GE,3F,GF,2I,GI,3I,GJ,2L,GM,3L,GNc
OJ,TH,7O0,SH,7O8,TL,7OG,SL,7OO,TN,7P0,SN,7P8,TP,7PG,SP,7PO,TV,7Q0,SV,7Q8,U5,7QG,U9,7R0,T9,7R8,
U1,7V4c
OK,TH,7O1,SH,7O9,TL,7OH,SL,7OP,TN,7P1,SN,7P9,TP,7PH,SP,7PP,TV,7Q1,SV,7Q9,U5,7QH,T5,7QP,U9,7R1,
T9,7R9,U1,7V5,T1,7VCcOR,2F,D0,3F,D1,2L,DF,3L,DGc
P3,22,7G4,32,7G5,24,7GC,34,7GD,28,7H4,38,7H5,2B,7HI,3B,7HJ,2C,7HM,3C,7HN,2D,7I2,3D,7I3,2E,7I6,
3E,7I7,2I,7IQ,3I,7IR,2J,7J2,3J,7J3,2K,7JC,3K,7JD,2M,7JU,3M,7JV,2N,7K8,3N,7K9,2Q,7KI,3Q,7KJ,21,
7L0,31,7L1,25,7LO,35,7LP,29,7MA,39,7MB,2F,7MC,3F,7MD,D0,7N2,D1,7N3,2L,7N4,3L,7N5,DF,7NG,DG,7NH,
2P,7NK,3P,7NLcP4,2L,7JI,3L,7JJcP5,21,7G0,31,7G1cP6,2J,GO,3J,GP,2K,GQ,3K,GRc
P7,23,67,33,77,27,92,37,93,2B,9M,3B,9N,2C,9R,3C,9S,2E,A5,3E,A6,2I,AM,3I,AN,2J,AU,3J,AV,2K,B2,3K,
B3,25,H8,35,H9,24,7GG,34,7GH,28,7H8,38,7H9c
P8,21,84,31,85,25,8O,35,8P,29,9E,39,9F,2L,BI,3L,BJ,2F,FA,3F,FBc
PD,24,7GI,34,7GJ,25,7GO,35,7GP,2C,7HS,3C,7HT,2E,7IA,3E,7IB,2K,7JG,3K,7JH,2L,7JM,3L,7JNc
PE,28,7HA,38,7HBcPG,25,7GQ,35,7GR,29,7HC,39,7HD,2L,7JK,3L,7JLc
PH,22,7G6,32,7G7,24,7GE,34,7GF,2B,7HK,3B,7HL,2C,7HQ,3C,7HR,2E,7I8,3E,7I9,2I,7IU,3I,7IV,2K,7JE,
3K,7JF,2Q,7KK,3Q,7KL,38,7KMc
PO,8CG,8CQ,8CI,8CR,8CK,8DE,8EG,8ED,8EK,8EE,8EI,8EF,8G3,8G4,8G8,8G9,8GB,8GC,8H3,8H4,8H5,8H6,8HS,
8I1,8I3,8I4,8I5,8I7,8I8,8I9,1T,8J0,8J1,8J2,8ID,8JD,1S,8JE,1U,8JF,8J4,8JG,8J5,8JH,8JI,8JK,8JJ,
8JL,8JM,8JO,8JN,8JP,8JQ,8K0,8JR,8K1,8K2,8K4,8K3,8K5,8K6,8K8,8K7,8K9,8L2,8LC,8L8,8LD,8L9,8LE,8LB,
8LF,8JS,8N0,8JT,8N1,8KH,8N2,8KI,8N3,8LI,8NA,8LJ,8NB,8LK,8NC,8LL,8NDc
Q2,7O0,7O6,7O1,7O7,7O8,7OE,7O9,7OF,7P0,7P6,7P1,7P7,7P8,7PE,7P9,7PF,7PG,7PM,7PH,7PN,7PO,7PU,7PP,
7PV,7QG,7QM,7QH,7QN,7QP,7QV,7R0,7R6,7R1,7R7,7R8,7RE,7R9,7RF,TH,7TM,58,7U1,TN,7U6,7TV,7UF,TP,7UM,
UA,7UN,7VU,7UV,U5,7V6,UB,7V7,U9,7VMc
Q5,7O0,7S0,7O1,7S1,7O2,7S2,7O3,7S3,7O4,7S4,7O5,7S5,7O6,7S6,7O7,7S7,7O8,7S8,7O9,7S9,7OA,7SA,7OB,
7SB,7OC,7SC,7OD,7SD,7OE,7SE,7OF,7SF,7P0,7SG,7P1,7SH,7P2,7SI,7P3,7SJ,7P4,7SK,7P5,7SL,7P6,7SM,7P7,
7SN,7P8,7SO,7P9,7SP,7PA,7SQ,7PB,7SR,7PC,7SS,7PD,7ST,7PE,7SU,7PF,7SV,7R0,7T0,7R1,7T1,7R2,7T2,7R3,
7T3,7R4,7T4,7R5,7T5,7R6,7T6,7R7,7T7,7R8,7T8,7R9,7T9,7RA,7TA,7RB,7TB,7RC,7TC,7RD,7TD,7RE,7TE,7RF,
7TF,7RG,7TI,TH,7TJ,TC,7TK,7TM,7TN,SH,7TS,7RK,7U2,TN,7U3,TE,7U4,7U6,7U7,SN,7UC,7RS,7VI,U9,7VJ,UE,
7VK,7VM,7VN,T9,7VSc1IJ,1H7,1H2c1IK,1H7,1H3,1I8,1H4,1IA,1H6,1ML,1M0,1M1,1M2,1MI,1MJc1IL,1H7,1H5c
29S,298,299,29G,29H,29J,29Kc2DU,2E7,2EBc2EN,2E7,2ECc2PU,2Q7,2QBc2QM,2Q7,2Q8c2QN,2Q7,2QCc
2TU,2U6,2UA,2U7,2UBc2UN,2SI,2SK,2U6,2UCc32M,326,328c362,366,36Ac36L,35V,360,366,367,36A,36Bc
36M,366,368c39U,3A6,3AA,3A7,3ABc3AN,3A6,3ACc3EA,3EP,3EQ,3ES,3ETc3EF,3EP,3ESc3EV,3EP,3EUc
41E,415,416c
6PL,6O5,6O6,6O7,6O8,6O9,6OA,6OB,6OC,6OD,6OE,6OH,6OI,6PQ,6PR,6PS,6PT,6PU,6Q0,6PV,6Q1,6Q2,6Q3c
C4P,C2B,C2C,C2D,C2E,C2F,C2G,C2H,C2I,C2J,C2K,C2L,C2M,C2N,C2O,C2P,C2Q,C2R,C2S,C2T,C2U,C2V,C30,C31,
C32,C34,C35,C36,C37,C38,C39,C3F,C3G,C3I,C3J,C3L,C3M,C3O,C3P,C3R,C3S,C26,C4K,C4T,C4U,C5B,C5C,C5D,
C5E,C5F,C5G,C5H,C5I,C5J,C5K,C5L,C5M,C5N,C5O,C5P,C5Q,C5R,C5S,C5T,C5U,C5V,C60,C61,C62,C64,C65,C66,
C67,C68,C69,C6F,C6G,C6I,C6J,C6L,C6M,C6O,C6P,C6R,C6S,C56,C7K,C7F,C7N,C7G,C7O,C7H,C7P,C7I,C7Q,C7T,
C7UcC4Q,C3F,C3H,C3I,C3K,C3L,C3N,C3O,C3Q,C3R,C3T,C6F,C6H,C6I,C6K,C6L,C6N,C6O,C6Q,C6R,C6Tc
245Q,244P,244Q,244R,244S,2455,245Bc2497,249H,249E,249I,249Fc24PU,24Q7,24QBc24QN,24Q7,24QCc
255G,255P,255Sc255Q,255P,255Rc255T,255P,255Uc25DF,25DO,25DQ,25DP,25DRc269G,269L,269Oc"

/-- The pairs that a run gives. -/
def pairsWith (second : Nat) : List Nat → List CanonicalPair
  | first :: whole :: rest => ⟨first, second, whole⟩ :: pairsWith second rest
  | _ => []

/-- All listed pairs. -/
def canonicalPairs : List CanonicalPair :=
  (readRuns compositionText).flatMap fun run =>
    match run.numbers with
    | second :: rest => pairsWith second rest
    | [] => []

/-- Where the syllables of Hangul start, and the leading consonants, the vowels, and
the place before the first trailing consonant. -/
def syllableStart : Nat := 0xac00

@[inherit_doc syllableStart] def leadingStart : Nat := 0x1100

@[inherit_doc syllableStart] def vowelStart : Nat := 0x1161

@[inherit_doc syllableStart] def trailingStart : Nat := 0x11a7

/-- The number of vowels. -/
def vowelCount : Nat := 21

/-- The number of trailing consonants, with none of them counted as one. -/
def trailingCount : Nat := 28

/-- The number of syllables: nineteen leading consonants with all that may follow. -/
def syllableCount : Nat := 11172

/-- The syllable that a leading consonant and a vowel compose, or a syllable without
a trailing consonant and such a consonant. -/
def composeHangul? (first second : Nat) : Option Nat :=
  if leadingStart ≤ first ∧ first < leadingStart + 19 ∧
      vowelStart ≤ second ∧ second < vowelStart + vowelCount then
    some (syllableStart +
      ((first - leadingStart) * vowelCount + (second - vowelStart)) * trailingCount)
  else if syllableStart ≤ first ∧ first < syllableStart + syllableCount ∧
      (first - syllableStart) % trailingCount = 0 ∧
      trailingStart < second ∧ second < trailingStart + trailingCount then
    some (first + (second - trailingStart))
  else
    none

/-- The pair that a syllable is composed of. -/
def splitHangul? (whole : Nat) : Option (Nat × Nat) :=
  if syllableStart ≤ whole ∧ whole < syllableStart + syllableCount then
    let index := whole - syllableStart
    let trailing := index % trailingCount
    if trailing = 0 then
      some (leadingStart + index / trailingCount / vowelCount,
        vowelStart + index / trailingCount % vowelCount)
    else
      some (whole - trailing, trailingStart + trailing)
  else
    none

/-- What two characters compose. -/
def composePair? (first second : Nat) : Option Nat :=
  match composeHangul? first second with
  | some whole => some whole
  | none =>
      (canonicalPairs.find? fun pair => pair.first == first && pair.second == second).map
        CanonicalPair.whole

/-- The pair that a character is composed of. -/
def splitPair? (whole : Nat) : Option (Nat × Nat) :=
  match splitHangul? whole with
  | some pair => some pair
  | none =>
      (canonicalPairs.find? fun pair => pair.whole == whole).map fun pair =>
        (pair.first, pair.second)

end IdResolution.Text
