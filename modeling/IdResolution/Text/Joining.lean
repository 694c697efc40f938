import IdResolution.Text.Runs

/-!
# Joining of letters

How the letters of cursive scripts join their neighbours, as far as joiners in host
names are judged by it.  The table is meant for the characters that host names may
hold; the others count with their neighbours.
-/

namespace IdResolution.Text

/-- The sides on which a character joins. -/
inductive Joining where
  | both
  /-- The character joins the one after it. -/
  | onward
  /-- The character joins the one before it. -/
  | backward
  /-- The character is passed over in joining. -/
  | transparent
  | none
  deriving DecidableEq, Repr

/-- The joining that a mark of the table stands for. -/
def Joining.ofMark : Char → Joining
  | 'd' => .both
  | 'l' => .onward
  | 'r' => .backward
  | 't' => .transparent
  | _ => .none

/-- The joining of all code points, as runs of one kind with their lengths. -/
def joiningText : String := "
O0n3Ht8In8t86n1Dt1n1t1n2t1n2t1n9t20nBt5n1d1n4r1d1r1d1r5d4rDd1n7d1r2dLtEn2d1t3r5nFdIr16d1r2d9r1d
1r1d1r2d2r1n1r8t1n6t2n2t1n4t2rAn3d2n1dGn1r1t3d5r4d1r9d1r1d1r1d1r2d1rTt1rBd3rFd2r4d1r1d2r3d2r6d
16nBtPn11d9t9n1tOn4t1n9t1n3t1n7tGn1r5d2r1d1rAd1r1d3r5t2n1d1n4d1n1r1dQr3n1d2n5d1r8d9tAd3r1n1r2d2r
6d1rFd1n1Pt1Nn1t1n1t4n8t4n1t3nFt2n2tTn1t1Qn1t4n6t6n1tKn4tOn5t1Pn2t3nRtKn2t3n1tBn2t1Pn1t4n8t4n3t
In4tKn8t1Qn1t2n1t1n6t6nAtBn4tSn1t1Tn1tCn3t1Gn1t3n1t1Nn1t1n3t5nItAn4tRn1t1Qn1t2n1t6n1t5n9tDn4tQn
2t1Pn2t4n5t7n1tKn4tRn1t28n5t3n6t2Pn1t2nBt8n8t32n1t2n9tBn8t28n2tRn1t1n1t1n1t1NnEt1n5t1n2t5n1Ht8n
1t36n4t1n6t1n2t2n2tPn2t4n3tGn4tDn1t2n2t6n1tFn1tLVn3tTIn3tTn2tUnEtInEt1Nn7t8n1t2nBt9n3t17n1dOn30d
5n2t12d1t6d3Gn3t4n2t9n1t6n7t6Nn2t2n3t1On1t1n9t1n1t2n8t6nDt1Gn2Kt1Gn1t1n5t1n1t5n1t18n9tCn2t10n4t
2n2t1n3t1On1t1n2t3n1t1n3t1Qn8t2n5t4Ln3t1nDt1n7t4n1t6n1t3n2t66n21tMFn1Kt2VBn4t4Cn1t30n10tHAn4t3Bn
4tTEIn4t1nAt10n2t2Gn2t8Gn1t3n1t4n1tPn2t5n4tGn1Id1l2HnAtInItDn1t16n8tPnBt1En3t1Gn1t2n4t2n2t17n1t
23n6t2n2t2nBt3n1t8n1t1Fn1t1Jn1t1n3t2n2t5n2t1n1t1An2t8nBt74n1t2n1t4n3tJPEn4KtJEn15tTOn43t30n1t4Ln
At1K1nFt18n8t40n5d1r1n1r1n2r2n1l5r4d1l5d1r3d1r2n1r6t4d1r4Gn1d1r1d3r3d1r2d1r1d2r1d8rGn4r2dAHn1l
11d1r1dCt1Pn5t9Tn2tLn1r2d1nAd1An6t1Gn3d1rHd1nBt3d1rRn4d2rCd4t1An1d1n2d3r1n1d2r2d1r2d1n1d2r1d4n1r
1dLl11n1t1MnFt19n1t2n2tAn3t1Hn4t2n2t7nEt1Gn3t14n5t1n9t1Tn1tCn2t1Kn9tAn4t2n1t2Vn3t2n1t1n2t6n1t2n
1Vt2Vn1t3nDtGn2t1Pn2t3n1t15nQt1Rn7tCn1t1n1t1n1tEnVt1On8t2n3t1n1tNn1t2Kn6t1n1t4n2t1n2t7En6t4n2t1n
2tRn14t1Jn8t2n1t1n2t3An1t1n1t2n6t1n1t35n1t1n1t2n4t1n9t7Vn9t1n2t80n2t1n1t4n1t4Gn8t4n1t10nAt18n6t
2n4t8n9t1n6t2n3t1EnDt1n2t66n1t1n3t1n1t69nEt1n1t2InNt1n7t1n2t1n2Bt1HnLt1n9t20n3t2n1t1n1tARn2tBn2t
1Kn8t2n1t1n1tNn2Mt54Gn1t6nPtB5UnCt3n3t2E0n5t1Rn7t10On1t1Vn4t2HnCtJ5Dn2t4J1n2GtGNn3tHn8t2n7tUn4t
4Kn3t1TRn1Nt4n1It8n1tEn1tMn135t80n80t1Gn7tBNnIt1Cn4tFSn4t7Un2t7Jn1t2n1t7n2t5n9tEIn2It12dCt"

/-- The kinds of joining as runs. -/
def joiningRuns : List Run :=
  readRuns joiningText

/-- The joining of a code point. -/
def joining (point : Nat) : Joining :=
  .ofMark (markAt joiningRuns 'n' point)

end IdResolution.Text
