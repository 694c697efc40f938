import IdResolution.Text.Runs

/-!
# Writing direction

The classes of characters by their writing direction, as far as labels of host names
are judged by them.  The table is meant for the characters that host names may hold;
the others count with their neighbours.
-/

namespace IdResolution.Text

/-- The classes of writing direction. -/
inductive Direction where
  | leftToRight
  | rightToLeft
  | europeanNumber
  | arabicNumber
  /-- A mark, which takes the direction of its character. -/
  | mark
  /-- A character without a direction. -/
  | neutral
  /-- A separator or a control, which stands in no label. -/
  | excluded
  deriving DecidableEq, Repr

/-- The class that a mark of the table stands for. -/
def Direction.ofMark : Char → Direction
  | 'l' => .leftToRight
  | 'r' => .rightToLeft
  | 'e' => .europeanNumber
  | 'a' => .arabicNumber
  | 'm' => .mark
  | 'o' => .neutral
  | _ => .excluded

/-- The classes of all code points, as runs of one class with their lengths. -/
def directionText : String := "
9o5xEo5xFoAe17oQl34oOl1oE1l2o7lEo2lSo1lHo3Hm4l2o3Vl2o4Bl8m7Vl7o1Dm1r1m1r2m1r2m1r9m1Mr2o1r2o1r1o
1r2oBm1GrLmAa1o2a3r1m35r8m1o6m2r2m1o4m2rAeNr1mUrTm2PrBm1Qr9m2r4o3r1mOr4m1r9m1r3m1r7m19r5m1Qr8m
1Ar1Pm1Nl1m1l1m4l8m4l1m3lFm2l2mTl1m1Ql1m4l6m6l1mKl4mCl2o7l1o2l5m1Pl2m3lRmKl2m3l1mBl2m1Pl1m4l8m4l
3mIl4mBl8o1l8m1Ql1m2l1m1l6m6lAmBl4mSl1m1Tl1mCl3m13lDo1m3l1m1Nl1m1l3m5lImAl4mIl7o2l1m1Ql1mFl9mDl
4mQl2m1Pl2m4l5m7l1mKl4mRl1m28l5m3l6m2Pl1m2lBm1o7l8m32l1m2l9mBl8m28l2mRl1m1l1m1l1m4o1JlEm1l5m1l2m
5l1Hm8l1m36l4m1l6m1l2m2l2mPl2m4l3mGl4mDl1m2l2m6l1mFl1mLVl3m1GlGo30l1oKQl5o3Il3mTl2mUlEmIlEm1Nl7m
8l1m2lBm7l1o1l3mGl10o3Ll2m12l1m3Ml3m4l2m9l1m6l7m6o4Ol12oNl2m2l3m1Ol1m1l9m1l1m2l8m6lDm1GlVm1Hl4m
1Gl1m1l5m1l1m5l1m18l9mCl2m10l4m2l2m1l3m1Ol1m1l2m3l1m1l3m1Ql8m2l5m4Ll3m1lDm1l7m4l1m6l1m3l2m66l21m
GBl64o1Km2Ao1SlDCo25lQo1l4HoPlJCo1lAJo80lKMo1l4Po5Ll7o3l4m6l7o3Vl1m30l10mG5o3lPo9l4m2l1o6l4o2l4o
2Ol4m3l1o2Ql1o64l14o6USl20oLKGl20o9Tl3o2Vl4m1oAm3oTl2m2Gl2mEl13o35l1o3Pl1m3l1m4l1mPl2m1l4o4m8l8o
1KlCo24lAmIlImDl1m16l8mPlBm1El3m1Gl1m2l4m2l2m17l1m23l6m2l2m2lBm3l1m8l1m1Fl1m1Jl1m1l3m2l2m5l2m1l
1m1Al2m8lBm39l2Mo15l1m2l1m4l3mJPEl4KmCCr2Io1Vr2Ho15m1EoCDr81l1o1Ul2Do3l20o1Dl43m30l1mVe3MlAm140l
8Vr1o71rFm18r8m55r6m2Er7oF4rCmGa90r10a1Br2m2Gr3m26rBm1Hr4m3Qr1l1m1MlFmBlKoAl1m2l2mAl3m1Hl4m2l2m
7lEm1Gl3m14l5m1l9m1Tl1mCl2m1Kl9mAl4m2l1m2Vl3m2l1m1l2m6l1m2l1Vm2Vl1m3lDmGl2m1Pl2m3l1m15lQm5Ol8m2l
3m1l1mNl1m2Kl6m1l1m4l2m1l2m7El6m4l2m1l2mRl14m1Jl8m2l1m1l2mVl10o1Bl1m1l1m2l6m1l1m35l3m2l4m1l9m7Vl
9m1l2m80l2m1l1m4l1m4Gl8m4l1m10l6m2l2m18l6m2l4m8l9m1l6m2l3m1ElDm1l2mCMlEm2KlNm1l7m1l2m1l2Bm1HlLm
1l9m20l3m2l1m1l1mARl2mBl2m1Kl8m2l1m1l1m4Il1Ao521l1m6lPmDKGl5m1Rl7m10Ol1m1Vl4m2Fl1o1lCmJ5Dl2m4J1l
2GmGNl3mHl8m2l7mUl4m1Rl2Po3m3Ro20l30o1L0l1Nm4l1Im8l1mEl1mMl135m80l80m1Gl7mBNlIm1Cl4mFlEHoSl4mOGl
6Gr2Im12r7m1D5rJ0oTl3o1Tl1Po3Ql13Oo4l4Ro4l9No2ElAKoCl19o7l1Eo1l7o8lEo4l9o7l6Ro"

/-- The classes as runs. -/
def directionRuns : List Run :=
  readRuns directionText

/-- The class of a code point. -/
def direction (point : Nat) : Direction :=
  .ofMark (markAt directionRuns 'l' point)

end IdResolution.Text
