import IdResolution.Text.Runs

/-!
# Combining marks

The characters that combine with the one before them, each with its canonical
combining class: zero for marks that keep their place, and else the class in whose
order marks of one character are sorted.  The table is meant for the characters that
host names may hold; the others count with their neighbours.
-/

namespace IdResolution.Text

/-- The marks: runs of the mark `n` hold no mark, and runs of the mark `m` give
their length and the class of the marks in them. -/
def markText : String := "
O0nL,76m1,78m4,6Sm1,78m1,6Om5,6Sm2,6Am4,6Sm2,6AmB,6Sm5,1m4,6SmA,76m3,6Sm3,76m3,6Sm3,76m4,6Sm
1,76m1,78m2,6Sm1,76m1,79m2,7Am1,79m2,7Am1,79mE,76m8In5,76m3,0m86n1,6Sm4,76m1,6Sm3,76m1,6Um1,6Sm
6,76m6,6Sm2,76m1,6Sm2,76m1,6Um1,74m1,76m1,Am1,Bm1,Cm1,Dm1,Em1,Fm1,Gm1,Hm1,Im2,Jm1,Km1,Lm1,Mm1n
1,Nm1n1,Om1,Pm1n1,76m1,6Sm1n9,Im20n8,76m1,Um1,Vm1,10m1Gn1,Rm1,Sm1,Tm1,Um1,Vm1,10m1,11m1,12m2,76m
2,6Sm5,76m1,6Sm2,76m1,6SmGn1,13m35n8,76m1n4,76m1,6Sm1,76m2n2,76m1n1,6Sm2,76m1,6Sm13n1,14mUn1,76m
1,6Sm2,76m1,6Sm2,76m3,6Sm1,76m2,6Sm1,76m1,6Sm3,76m1,6Sm1,76m1,6Sm1,76m1,6Sm1,76m1,6Sm4,76m2Pn
B,0m1Qn7,76m1,6Sm1,76m9n1,6SmOn4,76m1n9,76m1n3,76m1n7,76m19n5,6Sm1Qn1,76m3,6Sm4,76m1An5,76m5,6Sm
F,76m1,6Sm2,76m1,6Sm2,76m1,6Sm3,76m3,6Sm1,Rm1,Sm1,Tm3,76m1,6Sm2,76m2,6Sm5,76m4,0m1Mn2,0m1,7m1n
F,0m1,9m2,0m1n1,76m1,6Sm2,76mB,0m2n2,0mTn4,0m1Nn1,7m1nF,0m1,9m9n9,0m2n4,0mOn3,76m4,0m1Nn2,7mF,0m
4,9mB,0mKn2,0m3n1,0mBn4,0m1Nn1,7m1nF,0m3,9mIn4,0mKnB,0m1Nn1,7m1nF,0m8,9mA,0m3n4,0mSn1,0m1RnF,0m
3,9m7nF,0mQn5,0m1Nn1,7m1nF,0m8,9m1,2Km2,2RmAn4,0mRn3,0m1On1,7m1nF,0m8,9m7,0m6n4,0mDnH,0m1Nn2,9m
1nF,0m1,9m9n1,0mAn4,0mRn4,0m25n5,9mN,0mCn2,0m1Tn1,0m2n4,0m2,37m5,9m8n1,0m4,3Bm3,0m32n1,0m2n4,0m
2,3Mm1,9m2,0mBn4,3Qm4,0m28n2,6SmRn1,6Sm1n1,6Sm1n1,6Om4n2,0m1Hn1,41m2,42m6,44m4,42m2,0m2,42m2,76m
1,9m1n2,76m5n1H,0m8n1,6Sm34nC,0m1,7m1,0m2,9m4,0mNn4,0m4n3,0m1n3,0m2n7,0m3n4,0mDnB,0m1,6Sm1n1,0m
An4,0mLVn3,76mTIn2,0mB,9mJn2,0m1,9mTnE,0mInE,0m1MnS,0m1,9m1,0m9n3,76m55n2,0m12n1,74m3MnP,0m1,6Um
1,76m5,6Sm6Nn1,76m1,6Sm5,0m1NnB,0m1,9mK,0mA,76m1,6Sm1Gn5,76m6,6Sm2,76m1,6Sm1,0m2,6Sm2,76m2,6Sm
5,76m1,6Sm4,76m1Hn5,0m1Fn1,7mF,0m1,9m16n1,76m1,6Sm7,76mCn3,0mUn9,0m2,9m2,0m1On1,7mB,0mA,9m18n
J,0m4,7m4Ln3,76m1n1,1m5,6Sm2,76m4,6Sm1,76m1,0m7,1m4n1,6Sm6n1,76m2n1,0m2,76m66n2,76m1,6Sm7,76m
1,6Sm2,76m1,7Am1,6Mm1,6Sm1,6Am15,76m1,78m2,74m1,6Sm1,6Qm1,76m1,79m1,6Sm1,76m2,6SmMFn2,76m2,1m
4,76m3,1m2,76m4,0m1,76m3,0m2,1m1,76m1,6Sm1,76m2,1m4,6SmK,76m2VBn4,76m4Cn1,9m30n10,76mHAn1,6Qm
1,74m1,78m1,6Um2,70m39n4,8mTEIn1,76m3,0m1nA,76m10n2,76m2Gn2,76m8Gn1,0m3n1,9m4n1,0mNn5,0m4n4,9m
2Gn2,0m1InG,0m1,9m9,0mInI,76mDn1,0m16n5,0m3,6SmPnC,0mC,9m11n4,0m1Fn1,7mC,0m1,9m14n1,0m23nN,0m3n
1,0m8n4,0m1Bn3,0m1In1,76m1n2,76m1,6Sm2n2,76m5n2,76m1n1,76m19n5,0m5n1,0mB,9m72n8,0m1n1,0m3,9mJPEn
4K,QmJEn7,76m7,6SmN,76mTOn43,6Sm30n1,6Sm4LnA,76m1K1nC,0m1,6Sm1,0m1,76m18n1,76m1,1m5,6Sm1,9m55n
1,76m5,6SmHPnC,76mBRn2,76m2Gn3,6Sm26n2,6Sm3,76m1,6Sm1,76m4,6Sm1Hn1,76m1,6Sm1,76m1,6Sm3Qn3,0m1Ln
E,0m1,9m19n1,9m2n2,0mAn1,9m3,0m1Dn9,0m1,9m1,7m7nE,0m1Gn3,76m14nC,0m3,9mFn2,0m1Cn1,7mCn3,0m1Gn
D,0m1,9m8n1,0m1,7m2,0m1n2,0m2Sn9,0m1,9m1,7m1,0m6n1,0m2n1V,0m2VnA,0m1,7m6,9mGn5,0m1Mn2,7m1nF,0m
3,9m7n6,0m5n4,0mQ,76m5LnD,0m1,9m3,0m1,7mNn1,76m2HnI,0m1,9m1,7m7BnG,0m1,9m1,7mRn14,0m1GnF,0m1,9m
1,0m3AnB,0m1,9m1,7m35nE,0m5,9m7SnD,0m1,9m1,7m7LnD,0m2,9m1n1,0m1n1,0m1,7m4DnF,0m1,9m3nS,0m1nA,0m
18n1,0m1,9m5,0m1n4,0m8n9,9m1nB,0m1EnF,0m1,9mCLnG,0m1,9m2In3E,0m1HnH,0m1,7m1,0m2,9m1n9,0m1QnD,0m
1,9mARn4,0m9n2,0m1n1,0m1GnD,0m2,9m57Tn1,0m6nP,0mDKGn5,1m1Rn7,76m10On1,0m1n22,0m2HnC,0m2,6mJ5Bn
1,0m1,1m4J1n2G,0mGLn2,6Om3,1m3n1,72mD,6Om8,6Sm2n5,76m2,6SmUn4,76m4Kn3,76m1TRn1N,0m4n1I,0m8n1,0m
En1,0mMn135,0m80n80,76m1Gn7,76mBNnI,76m1Cn4,76mFSn2,78m1,6Sm1,76mV0n2I,6Sm12n6,76m1,7m"

/-- The marks as runs. -/
def markRuns : List Run :=
  readRuns markText

/-- The combining class of a mark; none for a character that is no mark. -/
def markClass? (point : Nat) : Option Nat :=
  match locate? Run.length markRuns point with
  | some (⟨[_, combiningClass], 'm'⟩, _) => some combiningClass
  | _ => none

/-- The combining class of any character. -/
def combiningClass (point : Nat) : Nat :=
  (markClass? point).getD 0

/-- The class of the marks that take the vowel from a consonant. -/
def virama : Nat := 9

end IdResolution.Text
