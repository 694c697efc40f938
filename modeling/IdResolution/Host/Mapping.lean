import IdResolution.Text.Runs

/-!
# Mapping of host names

What becomes of each character in a host name: most stay, capitals and variants of
other characters are replaced, some are dropped, and the rest stand in no host name.
-/

namespace IdResolution.Host

open Text

/-- What becomes of a character. -/
inductive Fate where
  | kept
  | refused
  /-- The characters that come in its place; none if it is dropped. -/
  | replaced (points : List Nat)
  deriving DecidableEq, Repr

/-- The fates of all code points.  Runs of the marks `v`, `x` and `i` are kept,
refused and dropped, for a given length; those of `u` hold as many pairs of a
capital and the small letter after it; those of `p` and `m` are replaced by the code
points at a distance further on or back; those of `r` are single code points with
what replaces them. -/
def mappingText : String := "
21vQ,10p15v10x10r7v10,O8r1v31r2v1i1v10,O4r2v2,40m10,O1rTSr2v10,P7r1Hr3Fr1v1H,824,1Kr1H,824,1Ir
1J,824,1Kr1vN,10p1v7,10p11vOu39,O7r1v39,3Ar39,3Ar2u1v3u3C,5Nr3C,5Nr4uLS,3ErNu7Vr3u3Jr1vIJr2uIKr
1u2,6Dp1u1vETrIPrIRr1uJ0rJ3r1vJ9rJ8r1u2vJFrJIr1vJLr3uK0r1uK3r2v1uK8r1u2,6Pp2uKIr1u2v1u6v34,BUr
34,BUr34,BUr3C,3Ar3C,3Ar3C,3Ar3E,3Ar3E,3Ar3E,3Ar8u1v9u1v34,3Qr34,3Qr34,3Qr1uCLrDVrKuCUr1v9u6v
B35r1uCQrB36r2v1uC0rK9rKCr5u30v38rJ6r3Ar3IrJPrJRrK1r3Nr3PrVv10,O6r10,O7r10,OAr10,P8r10,O3r10,OBr
2vJ3r3Cr3Jr3OrKLr2Rv2,20m1vOJrO8,O1rTPr9v1i10v2uLPr1v1u2x10,TPr3v1RrVJr4x10,O1r10,O8,O1rTCr5Nr
3,15p1xUCr1x2,1Vp1vH,10p1x9,10p13vUNrTIrTOrU5rUDrUBrU6rU0r1vCuTQrU1rU3r1vTOrTLr1v1uU3r1u1v3,42m
G,2Gp10,10p1GvHu8vRu16Fr7u1v1Gu1x16,1Gp2x1Ev1B5,1C2r3v2x3v1x1Nv8xRv4x6vHxMv1x2Ov1H7,1JKr1I8,1JKr
1M7,1JKr1IA,1JKr34v1x1Gv2x1Rv2x35vEx1Rv2x1Hv2xFv1xSv2x1v1xBv5x10v7x2Bv1x3Lv28L,29Sr28M,29Sr
28N,29Sr28S,29Sr291,29Sr292,29Sr29B,29Sr29F,29Sr14v1x8v2x2v2xMv1x7v1x1v3x4v2x9v2x2v2x4v8x1v4x
2D1,2DSr2D2,2DSr1x2DF,2DSr4v2xPv2x3v1x6v4x2v2xMv1x7v1x1v2HI,2HSr1x1v2HO,2HSr1x2v2x1v1x5v4x2v2x3v
3x1v7x2GM,2HSr2GN,2HSr2GS,2HSr1v1x2HB,2HSr7xHvAx3v1x9v1x3v1xMv1x7v1x2v1x5v2xAv1x3v1x3v2x1vFx4v2x
Cv7x7v1x3v1x8v2x2v2xMv1x7v1x2v1x5v2x9v2x2v2x3v7x3v4x2P1,2PSr2P2,2PSr1x5v2xIvAx2v1x6v3x3v1x4v3x2v
1x1v1x2v3x2v3x3v3xCv4x5v3x3v1x4v2x1v6x1vExLv5xDv1x3v1xNv1xGv2x9v1x3v1x4v7x2v1x3v1x2v2x4v2xAv7xMv
1x3v1xNv1xAv1x5v2x9v1x3v1x4v7x2v5x3v1x4v2xAv1x3vCxDv1x3v1x1Jv1x3v1x6v4xGv2xQv1x3v1xIv3xOv1x9v1x
1v2x7v3x1v4x6v1x1v1x8v6xAv2x3vCx1Iv3ID,3HIr7v4xTv15x2v1x1v1x5v1xOv1x1v1xCv3MD,3LIrAv2x5v1x1v1x7v
1xAv2x3LB,3KPr3LB,3L1r2v10xCv3OBr1Mv3Q2,3TNr4v1x4v3QC,3TNr4v3QH,3TNr4v3QM,3TNr4v3QR,3TNrCv
3Q0,3TLr3v4x2v3RH,3RIr1v3RH,3RKr3TI,3S0r3TI,3RH,3S0r3TJ,3S0r3TJ,3RH,3S0r7v3RH,3S0rHv3SI,3TNr4v1x
4v3SS,3TNr4v3T1,3TNr4v3T6,3TNr4v3TB,3TNrCv3SG,3TLr3v1xFv1xDv15x50v16,730p1xB97r5xB9Dr2x1Cv46Sr
32v2i78v1x4v2x7v1x1v1x4v2x19v1x4v2x11v1x4v2x7v1x1v1x4v2xFv1x1Pv1x4v2x23v2x10v3xQv6x2Mv2x6,8m2x
K0v1xSv3x2Pv7xMv9xOv9xKvCxDv1x3v1x2vCx1Kv2i18v2xAv6xAv6xBv5iAv6x2Pv7x1Bv5x26vAxVv1xCv4xCv4x1v3x
1Av2x5vBx1Cv4xQv6xBv3x1Uv2x21v1xTv2xBv6xAv6xEv2x1Ev2xCvKx2Dv1x56v8x1Sv3xFv3x1Jv11Ir11Kr11Ur
2,622m122r12Ar133r19IBr1u5x1B,2U0m2x3,2U0m8v8x1Bv5x1Cv31r76r32r1v2,76CmETr8,76Cm1v3FrH3r3Gr3Ir
2,76Cm3Nr31r2,6NKm782r32r2,774mIPr2,6NGm37r1v3Br3DrABr3FrIKr2,1Um3Gr2,773m78TrJFr3Mr795r3,6DBm
2,6CQm39r3Ir2,77Fm2,6DKmU1r2,6D3mDv11Tr12vIIr33rILr7GrISr36rIVrJ1rJ5r3,6PSm7BRrKTrJDr7C5rKVrJHr
JGr4,6PSmJOr2,6PHmDBr2,6PDm78Sr2,6PEm3Qr3,6PCmTOr20v2Bu4v31,LUr7J1r2v6Vr1v1Gu8v8,8m6v2x6,8m2x8v
8,8m8v8,8m6v2x6,8m2x8v1x7QHr1x7QJr1x7QLr1x7QNr8v8,8m1vTCr1vTDr1vTEr1vTFr1vUCr1vUDr1vUEr2x7O0,TPr
7O1,TPr7O2,TPr7O3,TPr7O4,TPr7O5,TPr7O6,TPr7O7,TPr7O0,TPr7O1,TPr7O2,TPr7O3,TPr7O4,TPr7O5,TPr
7O6,TPr7O7,TPr7P0,TPr7P1,TPr7P2,TPr7P3,TPr7P4,TPr7P5,TPr7P6,TPr7P7,TPr7P0,TPr7P1,TPr7P2,TPr
7P3,TPr7P4,TPr7P5,TPr7P6,TPr7P7,TPr7R0,TPr7R1,TPr7R2,TPr7R3,TPr7R4,TPr7R5,TPr7R6,TPr7R7,TPr
7R0,TPr7R1,TPr7R2,TPr7R3,TPr7R4,TPr7R5,TPr7R6,TPr7R7,TPr2v7RG,TPrTH,TPrTC,TPr1x1v7TM,TPr2,8m7RGr
TCrTH,TPr10,OJrTPr10,OJr10,Q2r10,O8,Q2r7RK,TPrTN,TPrTE,TPr1x1v7U6,TPr7RIrTDr7RKrTErTN,TPr
10,OJ,O0r10,OJ,O1r10,OJ,Q2r3vSGr2x2v2,8m7RMrTFr1x10,OK,O0r10,OK,O1r10,OK,Q2r3vTGr4v2,8m7RQrUDr
7V5r10,O8,O0r10,O8,O1r30r2x7RS,TPrU9,TPrUE,TPr1x1v7VM,TPr7ROrUCr7RSrUErU9,TPr10,O1r10,OKr1x10r
10r10r10r10r10r10r10r10r10r10r1i2v2x1v80Gr5v10,PJrCv3x1v7x10r3v81I,81Ir81I,81I,81Ir1v81L,81Lr
81L,81L,81Lr4v11,11r1v10,O5r8v1V,1Vr1V,11r11,1VrDv81I,81I,81I,81Ir7v10r5i5x6i1Gr39r2x6,820m1Br
8GIr1Tr2,82Lm3ErA,82Gm1Br8GIr1Tr2,835m1x31r35r3Fr3OrIPr38r4,81Bm3Gr2,818m3x8v3I,3JrPvEx11vFx
31,1F,33r31,1F,3Jr33r5G,33r1v33,1F,3Fr33,1F,3LrIRr1v5G,36r2,853m38r38r38r97r39r39r3Cr3Cr1v3Er
3E,3Fr2v3,859m3Ir3Ir2v3J,3Dr3K,35,3Cr3K,3Dr1v3Qr1vU9r1v3Qr1v3Br75r2,86Am1v35r2,86Bm8AEr3Dr3Fr
4,6R5m39r1v36,31,3OrU0rTJrTJrU0r8GHr4v34r2,872m2,86Vm6v1H,824,1Nr1H,824,1Pr1H,824,1H,1Gr
1H,824,1Jr1I,824,1Jr1H,824,1Lr1I,824,1Lr1J,824,1Lr1K,824,1Lr1H,824,1Mr1L,824,1Mr1H,824,1Or
1J,824,1Or1L,824,1Or1N,824,1Or1H,824r39r39,39r39,39,39r39,3Mr3Mr3M,39r3M,39,39r3M,39,39,39r
39,3Or3Or3O,39r3O,39,39r3Cr2,88Am3Dr39r39,39r39,39,39r39,3Mr3Mr3M,39r3M,39,39r3M,39,39,39r39,3Or
3Or3O,39r3O,39,39r3Cr2,88Qm3Dr3v1u4v1G,824,1Jr2v4x4Sv8HB,8HBr8HB,8HB,8HBr1v8HE,8HEr8HE,8HE,8HEr
7Ov2,36Vp7VvMxBvLx9,91Fm1H,1Gr1H,1Hr1H,1Ir1H,1Jr1H,1Kr1H,1Lr1H,1Mr1H,1Nr1H,1Or1H,1Pr1I,1Gr
18,1H,19r18,1I,19r18,1J,19r18,1K,19r18,1L,19r18,1M,19r18,1N,19r18,1O,19r18,1P,19r18,1H,1G,19r
18,1H,1H,19r18,1H,1I,19r18,1H,1J,19r18,1H,1K,19r18,1H,1L,19r18,1H,1M,19r18,1H,1N,19r18,1H,1O,19r
18,1H,1P,19r18,1I,1G,19rKx18,31,19r18,32,19r18,33,19r18,34,19r18,35,19r18,36,19r18,37,19r
18,38,19r18,39,19r18,3A,19r18,3B,19r18,3C,19r18,3D,19r18,3E,19r18,3F,19r18,3G,19r18,3H,19r
18,3I,19r18,3J,19r18,3K,19r18,3L,19r18,3M,19r18,3N,19r18,3O,19r18,3P,19r18,3Q,19rQ,92LmQ,93Fm1Gr
191v8HB,8HB,8HB,8HBr37v1Q,1Q,1Tr1T,1Tr1T,1T,1Tr35vAMT,POr4Nv2x4Av1G,1Gp1Gv1uJBr7BTrJTr2v3uIHrJHr
IGrIIr1v1u1v1u5v3Ar3Mr2,AHVm1Iu7v2u3v1u5x1Dv1x1v5x1v2x1Ov7xBB1r1vExOv9x7v1x7v1x7v1x7v1x7v1x7v1x
7v1x7v1x3Uv12xQv1x4vQUDr2Jv17SVrCxJG0rJH8rJHMrJHVrJIPrJK5rJKCrJL0rJLQrK9VrKB5rKBBrKC2rKCMrKDBr
KF0rKFLrKG0rKKRrKNPrKOLrKOQrKPOrKQ1rKQSrKR9rKS2rKTMrKU8rKV3rLMNrLOVrM7BrM82rM8ArM8LrM97rMBJrMQGr
MS0rMVOrN0FrN12rN1OrN3ErN3HrNERrNF5rNFHrNFUrNJIrNJQrNJVrNNKrNNUrNOBrNOJrNQGrNR1rNRJrNU3rOG8rOHMr
OIBrP9FrP9KrPC7rPCNrPD4rPDPrPF0rPF5rPNGrPO8rPP8rQP0rQR2rQRPrQTJrQUBrQUKrQURrR0FrR0KrR1KrS3BrSHAr
SHMrSHRrSHVrSI7rSIPrSIRrSLCrSS4rSS9rT6SrT76rT8OrT8VrT98rT9GrTCBrTCIrTJMrTJTrTLErTLVrTNErTURrTV2r
TVJrU9QrUDOrUDUrUJKrUMBrUNPrV3JrV7OrVPMrVQHrVSArVTTr1001r100Cr100Ir101Jr103Vr1049r10F3r10FAr
10FJr10FSr10GCr10GRr10GVr10JEr10JIr10JOr11IDr11JBr1220r122Cr1233r12BUr12CBr12EIr12G0r131Nr1326r
132Lr133Or134Tr13B4r13BGr13DJr13LBr13MAr13SRr13TGr13TLr144Hr14A9r14E6r14ECr14EHr15BNr15C0r15GSr
15LMr15LPr15N8r15QHr15QUr15R2r15R9r15UBr15VDr15VJr1601r1658r166Rr166Vr16CMr16CPr16DCr16L8r16MOr
16MVr16P5r16PFr16PIr16PSr16QQr1775r17JLr17JVr17L5r17LRr17M3r17MDr17MHr17NPr17NTr17OEr17OJr17P0r
17PRr17QAr17QIr17SDr17SSr17T0r1Ax10r1v1Er1JvC0Ir1vKQ1r2,8OBp5v1x2Mv2x2v10,C4Pr10,C4Qr2vC48,C4Ar
2VvC5J,C68r5x1Bv1x2,81Hm4DAr482r2,7S9m3,81Km6,7SAm48Qr3,81Rm491rA,81SmL,7VEm1i2,82Hm2,7T0m4ECr
4EEr4EJr4ENr4EPr48Sr4ETr4EVr2,82Km490r2,82Im497r499r5,82Dm49Ir49Mr4A0r4A7r4ACr2,7SHm3,81Dm2,803m
4C8r2,7VPm4CKr4CUr4D1r1x2vJG0rJKCrJG9rLMRrJGArJHDrJGBrT9IrJIPrJGPrJG1rM99rLPGrJLQr26vAxGv
18,480,19r18,482,19r18,483,19r18,485,19r18,486,19r18,487,19r18,489,19r18,48B,19r18,48C,19r
18,48E,19r18,48F,19r18,48G,19r18,48H,19r18,48I,19r18,1B00,19r18,1C4O,19r18,1CN4,19r18,1DRS,19r
18,1EE8,19r18,1F0K,19r18,1G5C,19r18,1HA4,19r18,1HSG,19r18,1J18,19r18,1JJK,19r18,1K60,19r
18,1KOC,19r18,1LAO,19r18,1I7S,19r18,1HH4,1I04,19r18,1HH4,1LM4,19r1x18,JG0,19r18,JKC,19r
18,JG9,19r18,LMR,19r18,JKK,19r18,KBD,19r18,JG3,19r18,KBB,19r18,JIT,19r18,KQ1,19r18,PO8,19r
18,S3B,19r18,R1K,19r18,PP8,19r18,14EH,19r18,LOV,19r18,PF5,19r18,Q1A,19r18,PO9,19r18,U9U,19r
18,L0D,19r18,SJP,19r18,1351,19r18,UAT,19r18,KLK,19r18,JN3,19r18,L3S,19r18,MR6,19r18,TN3,19r
18,JO1,19r18,1367,19r18,KQK,19r18,UBD,19r18,JOH,19r18,10FA,19r18,10FJ,19rLAFrNJSrPC7rUSFr8v
3G,3K,35r1I,1Hr1I,1Ir1I,1Jr1I,1Kr1I,1Lr1I,1Mr1I,1Nr1I,1Or1I,1Pr1J,1Gr1J,1Hr1J,1Ir1J,1Jr1J,1Kr
1J,1Lr480r2,8AVm3,8AUm489r2,8ASm5,8ARm1B00r1C4Or1CN4r1DRSr1EE8r1F0Kr1G5Cr1HA4r1HSGr1J18r1JJKr
1K60r1KOCr1LAOr1J1O,1B70r1I7S,1HQOr1HLGr1vJG0rJKCrJG9rLMRrJKKrKBDrJG3rKBBrJITrKQ1rPO8rS3BrR1Kr
PP8r14EHrLOVrPF5rQ1ArPO9rU9UrL0DrSJPr1351rUATrKLKrUEOrT9NrMBJr1439rK9ArKRGrR78r1605rJOHrKCPrQR3r
JGArJHDrJGBrNF6rKVJrKPRrMSNrMR6rTN3rJO1r1367rKQKrM8Sr1J,1Mr1J,1Nr1J,1Or1J,1Pr1K,1Gr1K,1Hr1K,1Ir
1K,1Jr1K,1Kr1K,1Lr1K,1Mr1K,1Nr1K,1Or1K,1Pr1L,1Gr1H,PO8r1I,PO8r1J,PO8r1K,PO8r1L,PO8r1M,PO8r
1N,PO8r1O,PO8r1P,PO8r1H,1G,PO8r1H,1H,PO8r1H,1I,PO8r38,37r35,3I,37r35,3Mr3C,3K,34rC52rC54rC56r
C58r2,HAmC5DrC5FrC5HrC5JrC5LrC5NrC5PrC5RrC5TrC5VrC61rC64rC66rC68r6,GQmC6IrC6LrC6OrC6Rr5,GGmC74r
C76r6,GDm4,GCmJN4,L4CrC52,C6H,C7S,C68rC52,C7B,C6L,C51rC52,C7J,C6Q,C52rC52,C7S,C7Br
C54,C6B,C7J,C5GrC54,C7J,C61rC56,C59,C7JrC58,C5P,C5F,C7S,C69rC58,C7S,C5B,C7SrC5A,C7J,C5Pr
C5A,C7S,C70rC5B,C54,C7ArC5B,C79,C63,C68rC5B,C7D,C7A,C7SrC5C,C7D,C7JrC5C,C7J,C6UrC5E,C5Cr
C5E,C6B,C7SrC5D,C75,C7A,C7SrC5E,C7B,C60,C7SrC5D,C7DrC5D,C7D,C5G,C79,C70rC5D,C7D,C71,C7S,C68,C7Br
C5D,C7D,C7F,C63,C68rC5G,C79,C70rC5G,C79,C70,C68,C7JrC5F,C7B,C5S,C54,C7DrC5F,C7D,C7S,C6Dr
C5H,C7S,C5PrC5J,C7B,C6ArC5J,C7S,C6TrC5L,C54,C5F,C7BrC5L,C7J,C61,C7S,C70rC5N,C7A,C7J,C5Gr
C5R,C7J,C61rC5R,C7J,C68rC60,C7S,C5PrC67,C5NrC69,C7BrC68,C7JrC6A,C6ErC6E,C63,C68rC6F,C54,C64r
C6H,C7S,C5R,C7J,C68rC6H,C7S,C64rC6G,C7S,C7C,C7BrC6K,C52,C5P,C68,C7BrC6K,C5F,C7BrC6K,C5JrC6J,C7Br
C6L,C51,C79,C63,C69rC6L,C53,C7S,C68rC6M,C63,C5N,C57,C7BrC6L,C79,C7JrC6O,C5F,C5V,C7S,C7BrC6Q,C5Tr
C6Q,C6B,C6IrC6O,C7B,C64rC6Q,C7J,C5PrC6Q,C7S,C5OrC6P,C7S,C5VrC6T,C54,C7J,C68rC6S,C7B,C68rC6R,C7Jr
C6T,C7J,C69rC6R,C7S,C7BrC6R,C7S,C7JrC6U,C54,C5F,C7DrC6U,C54,C7BrC6U,C63,C6FrC6U,C7B,C5Fr
C6U,C7J,C5N,C77,C7JrC6V,C5F,C7D,C7JrC6V,C7ArC6V,C7A,C6G,C7S,C7BrC71,C5CrC71,C5C,C68,C7Jr
C71,C7S,C68,C7BrC74,C7S,C69rC74,C7S,C7BrC76,C52,C7JrC7A,C63,C68,C7BrC7A,C79rC7B,C6K,C7Sr
C7B,C7S,C6M,C7BrC7C,C70rC7C,C7J,C68,C5I,C7JrC7F,C63,C68r1G,S5Pr1H,S5Pr1I,S5Pr1J,S5Pr1K,S5Pr
1L,S5Pr1M,S5Pr1N,S5Pr1O,S5Pr1P,S5Pr1H,1G,S5Pr1H,1H,S5Pr1H,1I,S5Pr1H,1J,S5Pr1H,1K,S5Pr1H,1L,S5Pr
1H,1M,S5Pr1H,1N,S5Pr1H,1O,S5Pr1H,1P,S5Pr1I,1G,S5Pr1I,1H,S5Pr1I,1I,S5Pr1I,1J,S5Pr1I,1K,S5Pr
38,3G,31r34,31r31,3Lr32,31,3Ir3F,3Mr3G,33r34,3Dr34,3D,1Ir34,3D,1Jr39,3LrNJJ,OGGrPHD,L4CrM97,QR3r
PGE,R5RrQ1A,NOF,JOQ,U9Ur3G,31r3E,31rTS,31r3D,31r3B,31r3B,32r3D,32r37,32r33,31,3Cr3B,33,31,3Cr
3G,36r3E,36rTS,36rTS,37r3D,37r3B,37r38,3Qr3B,38,3Qr3D,38,3Qr37,38,3Qr3K,38,3QrTS,3Cr3D,3Cr34,3Cr
3B,3Cr36,3Dr3E,3DrTS,3Dr3D,3Dr33,3Dr3B,3Dr3D,3D,1Ir33,3D,1Ir3D,1Ir3B,3D,1Ir3D,3D,1Jr33,3D,1Jr
3D,1Jr3B,3D,1Jr3D,8GL,3Jr3D,8GL,3J,1Ir3G,31r3B,3G,31r3D,3G,31r37,3G,31r3I,31,34r3I,31,34,8GL,3Jr
3I,31,34,8GL,3J,1Ir3G,3Jr3E,3JrTS,3Jr3D,3Jr3G,3Mr3E,3MrTS,3Mr3D,3Mr3B,3Mr3D,3Mr3G,3Nr3E,3Nr
TS,3Nr3D,3Nr3B,3Nr3D,3Nr3B,U9r3D,U9r1x32,3Hr33,33r33,34r33,8GL,3B,37r1x34,32r37,3Pr38,31r38,3Gr
39,3Er3B,3Br3B,3Dr3B,3Kr3C,3Dr3C,3Er3C,3F,37r3C,3Or3D,32r3D,39,3Cr3D,3F,3Cr3G,38r1x3G,3G,3Dr
3G,3Ir3J,3Ir3J,3Mr3N,32r3M,8GL,3Dr31,8GL,3Dr1H,PF5r1I,PF5r1J,PF5r1K,PF5r1L,PF5r1M,PF5r1N,PF5r
1O,PF5r1P,PF5r1H,1G,PF5r1H,1H,PF5r1H,1I,PF5r1H,1J,PF5r1H,1K,PF5r1H,1L,PF5r1H,1M,PF5r1H,1N,PF5r
1H,1O,PF5r1H,1P,PF5r1I,1G,PF5r1I,1H,PF5r1I,1I,PF5r1I,1J,PF5r1I,1K,PF5r1I,1L,PF5r1I,1M,PF5r
1I,1N,PF5r1I,1O,PF5r1I,1P,PF5r1J,1G,PF5r1J,1H,PF5r37,31,3CrS4Dv3x1Nv9xASvKxNuIvEu12Ar12Cr2Qv8x
12v7u2vVu19RFr8v2u7BPr5u3v1uJ5r2v2u2vAuJ6rISrJ1rJCrJAr1vKUrK7rKTr1AQJr8u19SKrK2r7CEr2uJ4r8uCRrKx
3Jr33r36r3Hr1u1v97rAJr1Jv3xAv6x1Ov8x26v8xCv6x3KvBxUv3x2Ev1xBv4x11v1x1Nv9xEv2xAv2x37vOxSvAx6v2x6v
2x6v9x7v1x7v1x1Cv19P7r1APNrJBr1AQIr9vKDr2v4x2G,15UGm1Ev2xAv6xAT4vCxNv4x1Hv884x1328rPNKr13MAr
1368rRMHrJHIrKV5r17SSr17SSrMAHr14EHrLC7rMA8rOFMrTJ9rVS5r11HVr11TQr127Or144FrQG2rR8RrS6PrSUUr
111Tr14BAr16FHrJK2rKRLrQO4rSGRr11HDr17GUrNAGrRVBr11EDr12B4rOM9r10EOr120VrNMArPONrRBArSNSr146Er
JS6rKDNrKMUrP64rQMJrSGGrTN7r1001r11G6r11ISr13FFr15PIr16RFr17FQrU4CrUBVrVD0r10U9r14O4r17JVr12MMr
M6VrNO4rV30r103UrSJ2rU6Ar1362r15NNrM6OrN32rQGJrREQrROFrV9FrVHNr15IBrKMIr104BrKESrKECrUGSrVDUr
10VHr15JLr12S0rOMFrQG2r12NUrJHPrMV7rO0IrSS7rTBGrKONrU7RrJTVrNT9rJGDrR6CrPBOrV92rKU3rM2UrTO1r
1129r12LArQTQr13TGrR48rONUr10N5rOT0rTB5rJLErKB9rKE9rQ41rV77r10JFr12MIr14EFrKNLrL22rMBJrNNCrPE5r
RVUrU9Ar15DDr16JAr17KNr17MErKKRrPM6rQRNr13R2rNJKrOCGrOG0rP4QrRP3rSA9rT49rUEArVFKr103Fr13P6r117Er
1413r14QArKGNrKL3rL5TrS68r1262r12LArNM9rNVLrORRrQTErV1UrSRLrJN4rLNPrMV7rNDQrO0SrSTIrT39rVSQr
1026r14HKr15NMr15Q8r160OrJSBrUDEr14DKr15LOrO71rJK6rK6QrMVErN1VrPCPrQG2rSEErTI2r117Sr143Sr17SDr
PK8r15HErKK9rPRRrPVJrRA1rRKSrT09rTAPrU3BrV8Gr162UrKBDrOHEr15JOrK1BrN8PrRFAr13PArNSBrOA4rQ0NrSS7r
15K6rKH9rL0FrN35rPGJrPQErQ58rR75rT06rTF2rVRPr126Fr1271r14ECr15N2rKPVrRLQrL0TrSEGrT4Or11FQr15L3r
172Nr17KVrPSNrREBr10F8rUMBrUP0rV4IrSM0rS4Pr12QOrJM0r10PMrKHQrKG7rNL6rOMJrV6MrMS5rR8UrPLKr13PRr
122Cr15IDr12CBrNMJrKA0rLE0r2vM2Qr1vPJKr2vKEUrSPArTMArU9SrUAUrUB5rUCFr15QMrV5UrVTTr1v11GIr1v12NOr
2v141Or147Tr3v167Fr167Sr1698r17DKr146Ur15LNrJTErK77rKADrKM9rKN4rKQHrLCTrLG6rLJ8rM20rM58rN34rN3Er
O4KrOB8rOCErOFIrPAFrPF2rPKHrQ45rRBNrRGQrRP2rSBErSHBrT12rU4HrU9UrUA9rUA8rUAGrUAMrUATr2,1065mUI0r
UK1rUU0rVFKrVG9rVI1rVRIr1005r10FDr10JPr10JPr112Nr128Gr12CMr12O1r12PPr136Jr1388r13TMr141Or15N3r
15VVr161RrO3Lr4GNEr10GOr2xJH6rKDLrKB8rJS0rKA5rKC0rKM7rKNQrLCTrLALrLCPrLF2rM2QrM5JrMA4rMAKrMJ2r
MP8rNMIrNMPrNR9rNTDrO6OrOAErO88rOCErOB0rOFIrOHKrOU4rP0SrP2IrPAMrPJKrPONrPORrPQMrQRPrQTQrRA1rRMRr
RMBrRP2rS0UrSBErTT7rSHLrSLFrSPArT3HrT86rT9RrTGTrTGVrTMArTMRrTNKrTQArTQ0rU6CrULHrUU0rV3RrVARrVFKr
VPUr1005r10QIr10VFr11RPr12A1r12C6r12CMr12LVr12NOr12MBr12O1r12NUr12NDr12PPr12SAr1388r13POr143Ir
14CPr14JMr15JSr15N3r15QMr15URr15VVr160Br161Rr16OIr17SSr4A2Ar4A24r4CULrESTrG0OrG1Pr4KI9r4N6Gr
4VMJr17Q3r17SEr16x36,36r36,39r36,3Cr36,36,39r36,36,3Cr3J,3Kr3J,3KrCx1BK,1BMr1BK,1B5r1BK,1BBr
1BU,1BMr1BK,1BDr5x1EP,1DKr1v1FI,1DNr1F2r1EGr2,1TAFm3,1TA9m1F8r1FAr1Br1F9,1E1r1F9,1E2r
1F9,1DS,1E1r1F9,1DS,1E2r1EG,1DNr1EG,1DOr1EG,1DSr1EH,1DSr1EI,1DSr1EJ,1DSr1EK,1DSr1EL,1DSr1EM,1DSr
1x1EO,1DSr1EP,1DSr1EQ,1DSr1ER,1DSr1ES,1DSr1x1EU,1DSr1x1F0,1DSr1F1,1DSr1x1F3,1DSr1F4,1DSr1x
1F6,1DSr1F7,1DSr1F8,1DSr1F9,1DSr1FA,1DSr1EL,1DPr1EH,1DVr1ER,1DVr1F4,1DVr1EG,1ESr1JHr1JHr1JRr1JRr
1JRr1JRr1JUr1JUr1JUr1JUr1K0r1K0r1K0r1K0r1JQr1JQr1JQr1JQr1JVr1JVr1JVr1JVr1JPr1JPr1JPr1JPr1L4r1L4r
1L4r1L4r1L6r1L6r1L6r1L6r1K4r1K4r1K4r1K4r1K3r1K3r1K3r1K3r1K6r1K6r1K6r2,1T7Nm1K7r1K7r1K7r1KDr1KDr
1KCr1KCr1KEr1KEr1K8r1K8r1KOr1KOr1KHr1KHr1L9r1L9r1L9r1L9r1LFr1LFr1LFr1LFr1LJr1LJr1LJr1LJr1LHr1LHr
1LHr1LHr1LQr2,1T75m1LRr1LRr1LRr1M0r2,1T75m1M1r1M1r1M1r1LUr1LUr1LUr1LUr1MIr2,1T6Tm1MJr11v1LDr1LDr
1LDr1LDr1M7r1M7r1M6r1M6r1M8r1M8r1M7,1JKr1MBr1MBr1M5r1M5r1M9r1M9r1MGr1MGr1MGr1MGr1I9r1I9r1H6,1H7r
1H6,1H7r1H6,1MLr1H6,1MLr1H6,1I8r1H6,1I8r1H6,1M7r1H6,1M7r1H6,1M6r1H6,1M6r1H6,1M8r1H6,1M8r1H6,1MGr
1H6,1MGr1H6,1MGr1H6,1I9r1H6,1I9r1H6,1I9r1MCr1MCr1MCr1MCr1H6,1HCr1H6,1HDr1H6,1I5r1H6,1I9r1H6,1IAr
1H8,1HCr1H8,1HDr1H8,1HEr1H8,1I5r1H8,1I9r1H8,1IAr1HA,1HCr1HA,1HDr1HA,1HEr1HA,1I5r1HA,1I9r1HA,1IAr
1HB,1HCr1HB,1I5r1HB,1I9r1HB,1IAr1HC,1HDr1HC,1I5r1HD,1HCr1HD,1I5r1HE,1HCr1HE,1HDr1HE,1I5r1HJ,1HCr
1HJ,1HDr1HJ,1HEr1HJ,1I5r1HL,1HDr1HL,1I5r1HM,1HCr1HM,1HDr1HM,1HEr1HM,1I5r1HN,1HDr1HN,1I5r1HO,1I5r
1HP,1HCr1HP,1I5r1HQ,1HCr1HQ,1I5r1I1,1HCr1I1,1HDr1I1,1HEr1I1,1I5r1I1,1I9r1I1,1IAr1I2,1HDr1I2,1I5r
1I2,1I9r1I2,1IAr1I3,1H7r1I3,1HCr1I3,1HDr1I3,1HEr1I3,1I4r1I3,1I5r1I3,1I9r1I3,1IAr1I4,1HCr1I4,1HDr
1I4,1HEr1I4,1I5r1I4,1I9r1I4,1IAr1I5,1HCr1I5,1HDr1I5,1HEr1I5,1I5r1I5,1I9r1I5,1IAr1I6,1HCr1I6,1HDr
1I6,1HEr1I6,1I5r1I6,1I9r1I6,1IAr1I7,1HCr1I7,1I5r1I7,1I9r1I7,1IAr1IA,1HCr1IA,1HDr1IA,1HEr1IA,1I5r
1IA,1I9r1IA,1IAr1HG,1JGr1HH,1JGr1I9,1JGr10,1IC,1IHr10,1ID,1IHr10,1IE,1IHr10,1IF,1IHr10,1IG,1IHr
10,1IH,1JGr1H6,1HHr1H6,1HIr1H6,1I5r1H6,1I6r1H6,1I9r1H6,1IAr1H8,1HHr1H8,1HIr1H8,1I5r1H8,1I6r
1H8,1I9r1H8,1IAr1HA,1HHr1HA,1HIr1HA,1I5r1HA,1I6r1HA,1I9r1HA,1IAr1HB,1HHr1HB,1HIr1HB,1I5r1HB,1I6r
1HB,1I9r1HB,1IAr1I1,1I9r1I1,1IAr1I2,1I9r1I2,1IAr1I3,1H7r1I3,1I4r1I3,1I5r1I3,1I9r1I3,1IAr1I4,1I5r
1I4,1I9r1I4,1IAr1I5,1H7r1I5,1I5r1I6,1HHr1I6,1HIr1I6,1I5r1I6,1I6r1I6,1I9r1I6,1IAr1I9,1JGr1IA,1HHr
1IA,1HIr1IA,1I5r1IA,1I6r1IA,1I9r1IA,1IAr1H6,1HCr1H6,1HDr1H6,1HEr1H6,1I5r1H6,1I7r1H8,1HCr1H8,1HDr
1H8,1HEr1H8,1I5r1H8,1I7r1HA,1HCr1HA,1HDr1HA,1HEr1HA,1I5r1HA,1I7r1HB,1I5r1HC,1HDr1HC,1I5r1HD,1HCr
1HD,1I5r1HE,1HCr1HE,1I5r1HJ,1HCr1HJ,1HDr1HJ,1HEr1HJ,1I5r1HL,1HDr1HL,1HEr1HL,1I5r1HM,1HCr1HM,1HDr
1HM,1HEr1HM,1I5r1HN,1HDr1HO,1I5r1HP,1HCr1HP,1I5r1HQ,1HCr1HQ,1I5r1I1,1HCr1I1,1HDr1I1,1HEr1I1,1I5r
1I2,1HDr1I2,1I5r1I3,1HCr1I3,1HDr1I3,1HEr1I3,1I4r1I3,1I5r1I4,1HCr1I4,1HDr1I4,1HEr1I4,1I5r1I4,1I7r
1I5,1HCr1I5,1HDr1I5,1HEr1I5,1I5r1I6,1HCr1I6,1HDr1I6,1HEr1I6,1I5r1I6,1I7r1I7,1HCr1I7,1I5r1I7,1JGr
1IA,1HCr1IA,1HDr1IA,1HEr1IA,1I5r1IA,1I7r1H6,1I5r1H6,1I7r1H8,1I5r1H8,1I7r1HA,1I5r1HA,1I7r1HB,1I5r
1HB,1I7r1HJ,1I5r1HJ,1I7r1HK,1I5r1HK,1I7r1I3,1I4r1I3,1I5r1I4,1I5r1I6,1I5r1I6,1I7r1IA,1I5r1IA,1I7r
1I0,1IE,1IHr1I0,1IF,1IHr1I0,1IG,1IHr1HN,1I9r1HN,1IAr1HP,1I9r1HP,1IAr1HQ,1I9r1HQ,1IAr1HJ,1I9r
1HJ,1IAr1HK,1I9r1HK,1IAr1HD,1I9r1HD,1IAr1HC,1I9r1HC,1IAr1HE,1I9r1HE,1IAr1HL,1I9r1HL,1IAr1HM,1I9r
1HM,1IAr1HK,1HCr1HK,1HDr1HK,1HEr1HK,1I5r1HK,1HHr1HJ,1HHr1HL,1HHr1HM,1HHr1HN,1I9r1HN,1IAr1HP,1I9r
1HP,1IAr1HQ,1I9r1HQ,1IAr1HJ,1I9r1HJ,1IAr1HK,1I9r1HK,1IAr1HD,1I9r1HD,1IAr1HC,1I9r1HC,1IAr1HE,1I9r
1HE,1IAr1HL,1I9r1HL,1IAr1HM,1I9r1HM,1IAr1HK,1HCr1HK,1HDr1HK,1HEr1HK,1I5r1HK,1HHr1HJ,1HHr1HL,1HHr
1HM,1HHr1HK,1HCr1HK,1HDr1HK,1HEr1HK,1I5r1HJ,1I7r1HK,1I7r1HN,1I5r1HJ,1HCr1HJ,1HDr1HJ,1HEr1HK,1HCr
1HK,1HDr1HK,1HEr1HN,1I5r1HO,1I5r1H7,1IBr1H7,1IBrIv1HA,1HC,1I5r1HA,1HD,1HCr1HA,1HD,1HCr
1HA,1HD,1I5r1HA,1HE,1I5r1HA,1I5,1HCr1HA,1I5,1HDr1HA,1I5,1HEr1HC,1I5,1HDr1HC,1I5,1HDr1HD,1I5,1IAr
1HD,1I5,1I9r1HJ,1HD,1HCr1HJ,1HC,1HDr1HJ,1HC,1I9r1HJ,1I5,1HDr1HJ,1I5,1HDr1HJ,1I5,1HCr1HJ,1I5,1I5r
1HJ,1I5,1I5r1HL,1HD,1HDr1HL,1HD,1HDr1HL,1I5,1I5r1HK,1HD,1I5r1HK,1HD,1I5r1HK,1HC,1IAr1HK,1I5,1HEr
1HK,1I5,1HEr1HK,1I5,1I5r1HK,1I5,1I5r1HM,1HD,1I9r1HM,1HE,1I5r1HM,1HE,1I5r1HN,1I5,1HDr1HN,1I5,1HDr
1HN,1I5,1I5r1HN,1I5,1IAr1HP,1HC,1I5r1HP,1I5,1I5r1HP,1I5,1I5r1HP,1I5,1I9r1HQ,1I5,1I5r1HQ,1I5,1IAr
1HQ,1I5,1I9r1I1,1HE,1I5r1I1,1HE,1I5r1I2,1I5,1HDr1I2,1I5,1I5r1I4,1HD,1I5r1I4,1HD,1IAr1I4,1HD,1I9r
1I4,1HC,1HCr1I4,1HC,1HCr1I4,1HE,1I5r1I4,1HE,1I5r1I4,1I5,1HDr1I4,1I5,1HDr1I5,1HD,1HCr1I5,1HD,1I5r
1I5,1HD,1IAr1I5,1HC,1HDr1I5,1HC,1I5r1I5,1HE,1HCr1I5,1HE,1I5r2v1I5,1HC,1HEr1I7,1I5,1HCr
1I7,1I5,1I5r1I6,1HD,1I5r1I6,1HD,1I9r1I6,1HC,1I5r1I6,1HC,1I5r1I6,1HC,1I9r1I6,1I5,1IAr1I6,1I5,1I9r
1IA,1I5,1I5r1IA,1I5,1I5r1H8,1HE,1IAr1HA,1HC,1IAr1HA,1HC,1I9r1HA,1HE,1IAr1HA,1HE,1I9r1HA,1I5,1IAr
1HA,1I5,1I9r1HC,1I5,1IAr1HC,1HD,1I9r1HC,1I5,1I9r1HJ,1HE,1I9r1HL,1HD,1IAr1HK,1HD,1IAr1HM,1HD,1IAr
1I4,1HC,1IAr1I4,1I5,1IAr1IA,1HD,1IAr1IA,1HC,1IAr1IA,1I5,1IAr1I5,1I5,1IAr1I2,1I5,1IAr1I6,1HD,1IAr
1I2,1I5,1HDr1I4,1HD,1I5r1HP,1I5,1IAr1I3,1I5,1IAr1I6,1HC,1HDr1I5,1HE,1IAr1I4,1HC,1I5r1I3,1I5,1I5r
1I4,1HC,1I5r1I6,1HC,1HDr1HC,1HD,1IAr1HD,1HC,1IAr1I5,1HC,1IAr1I1,1I5,1IAr1H8,1HD,1IAr1I3,1I5,1I5r
1HP,1HC,1I5r1HL,1I5,1I5r1HJ,1HE,1IAr1I6,1HC,1IAr8v10x1HL,1I4,1MIr1I2,1I4,1MIr1H7,1I4,1I4,1I7r
1H7,1I3,1H8,1HHr1I5,1HD,1I5,1HFr1HL,1I4,1HP,1I5r1HH,1HJ,1I8,1I4r1HP,1I4,1IA,1I7r1I8,1HJ,1I4,1I5r
1HL,1I4,1I9r1HL,1I4,1I9,10,1H7,1I4,1I4,1I7,10,1HP,1I4,1IA,1I7,10,1I8,1HJ,1I4,1I5r
1HC,1I4,10,1HC,1I4,1H7,1I4,1I7r1HH,1MC,1H7,1I4r3vGi1CrC01r1x2,1VEPm11r1Vr2,1JG1m7xGv1x80Kr80Jr
2Vr2Vr2,1VGDm3Rr3Tr2,1JH5m2,1JHBm2,1JHJm2,1JHNm4,1JHLm2v2Rr2Tr10,O5r10,O5r10,O5r10,O5r2Vr2Vr2Vr
1CrC01r2x1Rr1Qr1Vr11r80Kr2,1VHHm3Rr3Tr2,1JI9m13r16r2,1VHNm1Dr1Sr1Ur1Tr1x2Sr2,1VI5m20r4x10,1IBr
1I0,1IBr10,1ICr1v10,1IDr1x10,1IEr1I0,1IEr10,1IFr1I0,1IFr10,1IGr1I0,1IGr10,1IHr1I0,1IHr10,1IIr
1I0,1IIr2,1U2Vm2,1U30m2,1U31m2,1U32m2,1U33m1H6r1H6r2,1U36m2,1U37m1H8r1H8r2,1U3Am2,1U3Bm1HAr1HAr
2,1U3Em1HBr1HBr2,1U3Hm1HCr1HCr2,1U3Km1HDr1HDr2,1U3Nm1HEr1HEr2,1U3Qm2,1U3Rm2,1U3Sm2,1U3Tm2,1U3Um
1HJr1HJr2,1U41m1HKr1HKr2,1U44m1HLr1HLr2,1U47m1HMr1HMr2,1U4Am1HNr1HNr2,1U4Dm1HOr1HOr2,1U4Gm1HPr
1HPr2,1U4Jm1HQr1HQr1HQr1I1r1I1r1I1r2,1U4Jm1I2r1I2r2,1U4Mm1I3r1I3r2,1U4Pm1I4r1I4r2,1U4Sm1I5r1I5r
2,1U4Vm1I6r1I6r2,1U52m1I7r1I7r2,1U55m2,1U56m2,1U57m1IAr1IAr1IAr1I4,1H2r1I4,1H2r1I4,1H3r1I4,1H3r
1I4,1H5r1I4,1H5r1I4,1H7r1I4,1H7r2x1i1x10,1VN0mQ,1VM0m14,1VN0m2,1LEQm1Er2,1JQMmC01rC7RrC7IrC51r
C53rC55rC57rC59rC73rC75rC77rC63rC7SrC52rC54rC56rC58r2,1JMBmC5DrC5FrC5HrC5JrC5LrC5NrC5PrC5RrC5Tr
C5VrC61rC64rC66rC68r6,1JLRmC6IrC6LrC6OrC6Rr5,1JLHmC74rC76r6,1JLEmC7FrC7Jr2,1JO5m1i2,1RL1m4DAr
482r2,1RFPm3,1RL4m6,1RFQm48Qr3,1RLBm491rA,1RLCm3x6,1RJ1m2x6,1RJ3m2x6,1RJ5m2x3,1RJ7m3x2,1VPUm5Cr
10,O4r56r55r859r1x982r4,1NIPm9D0r9EBrHxCv1xQv1xJv1x2v1xFv2xEv12x3Rv5x3v4x1Dv3x2Ov1xDv3x1v1Fx1Ev
42xTv3x1HvFxSv4x14v9xUv5x1Bv5xUv1x15v4xEv1Ax18,18p3Mv2xAv6x14,18p4x14v4x18v8x1KvBx1vB,17p1xF,17p
1x7,17p1x2,17p1xBv1xFv1x7v1x2v3x1KvCx9Nv9xMvAx8vOx1v2,215Hm76rKPrIJr1xL3r1AR6rL5rL4r2,219Lm7CHr
IOrIUrL9rJ4rJ2rJ0rKRr97rKSrJ7rK4r2,217FmJCr3NO4r19SErJEr3NO5rKEr3NO6r7Or2,219Dm3HrJQr3NO8r
2,219BmK0rL8rL6r1AR7rL7rK8rB3Hr1xKFr2,218ImKOr3,21FMm3NOAr3NOUr25x6v2x1v1x1Cv1x2v3x1v2xNv1x28v8x
9v1GxJv1x2v5x11v3xRv5xRv16x1Ov4xKv2x1Iv1x2v5x8v1x3v1xTv2x3v4xAv7x9v7x20v10x17v4xCv9x1Mv3xTv2xRv
5xQv7x4vCx7v2Gx29v1Nx1J,20pDx1Jv7x1Ev8xAv6xGvM,10p3xTv8x2v6GxVv1x1Av1x3v2x2vGx6v8x9v11x1Ev8x1Av
MxQv16xSvKxNv9x2Ev4x14v9x1Uv1x5vDxPv7xAv6x1Lv1xIv8x17v9x30v1xKvBxIv1x1Fv1Ux7v1x1v1x4v1xFv1xBv6x
1Rv5xAv6x4v1x8v2x2v2xMv1x7v1x2v1x5v1xAv2x2v2x3v2x1v6x1v5x7v2x7v3x5vBxAv1x1v2x1v1x16v1xAv1x1v2x1v
1x4v1xAv1x2v8x2vTx2Sv1x5vUx28v8xAv56x1Mv2x16v12x25vBxAv6xDvJx1Qv6xAv6xKvSxRv2xFv4xNv5Px1Sv34x
10,10p1JvCx8v2x1v2x8v1x2v1xUv1x2v2xCv9xAv26x8v2x1Ev2xBvRx28v8x2JvDx29v7xAv2Mx8v2Ox12vExAv6x9v1x
1Dv1xEvAxTv3x10v2xMv1xEv29x7v1x2v1x1Cv3x1v1x2v1x9v8xAv6x6v1x2v1x15v1x2v1x6v7xAv6x1Cv4xAv7MxPv7x
Hv1x19v3xTv2Lx1vFx1IvDxSRv36x3Fv1x5vBx64v2ICx33vDx11GvGxMvAx3SRv5xI7v6LPx1Qv1M6xHPv7xVv1xAv4x2Hv
1xAv6xUv2x6vAx26vAxAv1x7v1xLv5xJvDGx1Qv66x10,10p1Rv5xP,Rp2xPv1Cx2Bv4x1Pv7xHv20x5vBx7v9x76Mv19x
10v31x3Jv8FTx4v1x7v1x2v1x93vFx1vTx3v2x1vEx4v8xCCv284x3Bv5xDv3x9v7xAv2x4v4i3QSx6MvQ,3J3LmA,3J60m
3v3xDKv6xNvFxHvFx1Ev2xNv9x3Kv1Sx7MvAx17v2x1Lv3KAN,3KB5r3KAO,3KB5r3KAO,3KB5,3KBEr3KAO,3KB5,3KBFr
3KAO,3KB5,3KBGr3KAO,3KB5,3KBHr3KAO,3KB5,3KBIrEv8i20v3KDP,3KB5r3KDQ,3KB5r3KDP,3KB5,3KBEr
3KDQ,3KB5,3KBEr3KDP,3KB5,3KBFr3KDQ,3KB5,3KBFr1AvLx26v3QxKvCxKvCx2Nv9xPv47xQ,3KSVmQ,3KTPmQ,3KUJm
7,3KVDm1xI,3KVDmQ,3L07mQ,3L11m31r1x2,3L1Rm2x37r2x2,3L1Rm2x4,3L1Rm1x8,3L1Rm4,3L2Lm1x36r1x7,3L2Lm
1xB,3L2LmQ,3L3FmQ,3L49m2,3L53m1x4,3L53m2x8,3L53m1x7,3L53m1xQ,3L5Tm2,3L6Nm1x4,3L6Nm1x5,3L6Nm1x3Fr
3x7,3L6Nm1xQ,3L7HmQ,3L8BmQ,3L95mQ,3L9VmQ,3LAPmQ,3LBJmQ,3LCDmQ,3LD7mQ,3LE1mQ,3LERmQ,3LFLmQ,3LGFm
Q,3LH9m9HrHNr2xH,3KNNmTOr7,3KNNm8G7rH,3KOHmU3r7,3KOHm8G2rTLrTOrTQrU6rU1rU0rH,3KPHmTOr7,3KPHm8G7r
H,3KQBmU3r7,3KQBm8G2rTLrTOrTQrU6rU1rU0rH,3KRBmTOr7,3KRBm8G7rH,3KS5mU3r7,3KS5m8G2rTLrTOrTQrU6rU1r
U0rH,3KT5mTOr7,3KT5m8G7rH,3KTVmU3r7,3KTVm8G2rTLrTOrTQrU6rU1rU0rH,3KUVmTOr7,3KUVm8G7rH,3KVPmU3r
7,3KVPm8G2rTLrTOrTQrU6rU1rU0rUTrUTr2xA,3LSUmA,3LT8mA,3LTImA,3LTSmA,3LU6mKCvFx5v1xFv12GxVv6x6v6Lx
7v1xHv2x7v1x2v1x5v5x9,3N00m3,3MVVmB,3MVUm12Br2,3MVRm19K9r16Pr12Mr12Or179r15Fr16Fr9,3N11m2,3N10m
2,3N0Um121r6,3N0Sm2,3N0Rm14Hr12Mr12Lr12Vr15Br19IHr15Hr11x1v3Gx1Dv3xEv2xAv4x2vA0xVvHx1Qv5x1vEGx
1Av6Mx1Bv4x1v60xVv1xMv8x2v70x7v1x4v1x2v1xFv1x65v2xGv19x12,12p1Av4xAv4x2vOHx24v2Cx1Tv62x2,3PUPm
1HCr1HFr1x1I8r1HIr1HDr1HNr1IAr4,3PU7m1HJr1HPr1I1r1HLr1I2r1HHr1HKr2,3PVBm1HEr1HGr1HMr1HOr1HQr1JEr
1LQr1L1r1JFr1x1H8r1HCr1x1I7r2x1HDr1x1IAr4,3PV7m1HJr1HPr1I1r1HLr1I2r1x1HKr2,3Q0Bm1HEr1x1HMr1x1HQr
6x1HCr4x1HDr1x1IAr1x1I4r1x1I6r1HJr1HPr1x1HLr1I2r1x1HKr2x1HEr1x1HMr1x1HQr1x1LQr1x1JFr1x1H8r1HCr1x
1I7r2x1HDr1HNr1IAr1I3r1x2,3Q17m1HJr1HPr1I1r1HLr1I2r1x1HKr2,3Q2Bm1HEr1x1HMr1HOr1HQr1JEr1x1L1r1x
2,3Q2Pm1HCr1HFr2,3Q1Tm1HIr1HDr1HNr1IAr1x3,3Q27m1HJr1HPr1I1r1HLr1I2r1HHr1HKr2,3Q3Bm1HEr1HGr1HMr
1HOr1HQr5x1H8r1HCr1HFr1x1I8r1HIr1HDr1HNr1IAr1x3,3Q37m1HJr1HPr1I1r1HLr1I2r1HHr1HKr2,3Q4Bm1HEr1HGr
1HMr1HOr1HQr1Kx2v8Ex1Cv4x34vCxFv2xFv1xFv1x15vBx1G,1Cr1H,1Cr1I,1Cr1J,1Cr1K,1Cr1L,1Cr1M,1Cr1N,1Cr
1O,1Cr1P,1Cr5v18,31,19r18,32,19r18,33,19r18,34,19r18,35,19r18,36,19r18,37,19r18,38,19r18,39,19r
18,3A,19r18,3B,19r18,3C,19r18,3D,19r18,3E,19r18,3F,19r18,3G,19r18,3H,19r18,3I,19r18,3J,19r
18,3K,19r18,3L,19r18,3M,19r18,3N,19r18,3O,19r18,3P,19r18,3Q,19rC0K,3J,C0Lr33r3Ir33,34r3N,3Qr1v
Q,3S6Fm38,3Mr3D,3Mr3J,34r3J,3Jr3G,3G,3Mr3N,33rQv3D,33r3D,34r3D,3Ir13v34,3ArTv1OxQvC3R,C2Br
C5J,C5JrC5LrDxOIBrMQNrKUCrC67rJKCrM8Qr12F3rM99rJL4rPH0rS91rPCPrKIDrNSCrKCDrPDGrKGTrVA2rT8Vr1359r
M7GrL1PrROKrOKLrOQLrJG0rJG9r142ArNF6rJHDrKVJrOO7r13BGrOIJrUC1rUJQrL08rRK0rPO9rPO8rT9JrKJIrLDMr
14ADr4xC0K,PPC,C0LrC0K,JG9,C0LrC0K,JKC,C0LrC0K,MS9,C0LrC0K,S5P,C0LrC0K,OIJ,C0LrC0K,TMN,C0Lr
C0K,KMT,C0LrC0K,PAN,C0Lr7xNSNrKVFrEx6v4QxUPv3xHv3xDv3x6Qv6xCv4x1vFxCv4x1Ov8xAv6x18v8xUv2xCv4x2v
Ex9v17xAOv8xEv2xDv3xBv3x1Pv1x1v4xGv2xCv4xAv7x4Jv1x2SvA,3UU0m1v105x19N0v10x48Uv2x5KEv2x79HvFxJEv
2D2xJHTrJHOrJI1r4092rJR0rJTErJTRrK02rK3QrK4PrK77rK6FrD4Ur41HQrKADrKAKrKB4rKBNr418SrD5PrKB7rKCDr
41ABrKCNrKD4rJMCrKDCrKDLr54EVrKFLrKG3rD6VrKHRrKI6rKJIrKJNrD8LrKM7rKM9rKN4rKNQr2,5994mKONrKQ9r
KQHrKQQrKRJrKRTrKRVrKRVrKRVr42HCrS3GrKUArKUVr42R3rKVBrKVHrL06rL4UrL1OrL28rL38rL52rL7MrL8GrLAJr
LB3rLC4rLC4rLCPrLDBrLDJrLE2rLOMrLG6rLONrLIHrLJKrKG7rM7ErLUErLVKrM0DrLSBrM1IrM1HrM5Cr4574rM7Ir
M7NrM86rM8QrM92rMB2r45L8r45NArMFCrMGRrMH7rMEOrMJ6rDNErDNSrMO8rMPUrMPUr46E8rMU3rMUOrMV7rMVJr46OOr
MVVrN06rNQJrN12rDS1rN30rN3ErN60rN4Dr47F4rNA3r47F6rNBErNBBrNBSr2,56L0mE1FrNFTrNH8rNHTrNJ9rE32r
48C3rE3SrNLGrNLJrNLMrNMAr58SIrNNUr48PHr48PHr10G1rNP2rNP2rE67r4CLOr4OEQrNR2rNRBrE73rNSQrNUDrNUNr
NVPrO41rE9QrE8SrO4Kr49MKrO67rOA8rOACrOAErOACrOBQrOCErODIrOD4rODFrOEUrOFIrOFMrOGGrOGRrOITrOLHr
OMKrOQGr4AOCrOPTrONSrOR8rOS3rOV4r4AVHrP12rOU5rOT9rEHErP39rP3UrP4TrP3NrEJCrPAFrPBCr4C0ArPF3rPNOr
PI9rEOPrPKHrEO8rEN4rKCIrKCLrPO0rPKSr105DrGUPrPONrPORrPP1rPQUrPQJr4CU3rEQ9rPVQrPS5rQ2IrQ45r4D3Dr
Q4ErQ0VrQ8KrESTrQA2rQD3rQFArQL8r4DL3rQMRrF0OrQP1r4E57rQQKrF2ErQRIrQSVr2,539Rm4EKDr478Br4ENQrR2Er
4F5SrR5VrR6DrR37rR8MrR9UrRBNrRA1rRB9rRBOrRC5r4F8UrR9KrRHFrRJErF9JrRMBrRM7r4FMHrRFPrRREr4FQUr
4FSErRU6rS1PrS0UrS0RrFCMrS2ArS3TrS3NrS5Dr4195rSA5r4GJ3rSCSr4GTBrSH8rSHLrSIGr4HG8rSK0rSKLr4HPLr
4I0KrSRQrSSBrFLCrST5rFLOrFLOrT27rT2SrT3HrT45rT6ArFORrT94r4J1MrT9Ur4J4IrTBGr48CVrTGGr4JT1r4JTOr
4K24rFVSrG08rTNKr4K7Jr4K7Ir4K8Pr4K9Jr2,50H7mTOVrTQArG1PrTSBrG26rG4Mr4L0TrU2ErU4CrU6CrG73r4LH6r
UAMr4LKQr4LM5rUCFrUFBrG9FrUI0rUIArUIFr4MBSr4ML7r4ML7rUNErGG2r4MTBrUU6rUU9rGH7r4N40rV6IrGL0rV78r
V73rV80r4NS6rVB3rGO1rVE7rVG2rVI5rGPKr4OH8r4OI7rGQPr4OMPrVRQr4OPUrVSLrVVQr1005r4P6Qr4P93r1030r
4PD8r103Gr4CQVrGULr105Ir1083rH0Br109UrMLLr4PT7r4PTLr4CSJr4CSSr10G1r10G4r13SUrH3Br10KHr10KBr10KTr
KLJr10LHr10LJr10LTr10N6r4QPSr10N5r10OTr10R3r10TDr10P3r10TTr10V7r112Nr10QJr10UAr10UCr10USr4R1Mr
4RBBr4R6LrH9Br117Hr117Jr118Mr4SUAr11B4r4RPCrHATrHB1r4RTHr4S6IrHBBr11IGr11ISr11J7r11J9r11L9r11K8r
11OEr11N2r11RPr11P8r11RBr11S6rHENr11V1r1201rHFPr1230r1233r4TJ7r126Nr126UrHHLr127QrD5Rr4U5Er4UB6r
HLUrHM7r12L0r12NDr12SAr132Lr4V58r135Br1361r138Rr13BNr4VPFr4204r13EBr13DSr13FGr426Ur13MKr13POr
51EIr51FDr144Kr147Hr148Hr51PEr148Rr14HOr2,4POHm14JSr14VPr150Lr52VQr15CBrICLr15DNr53BNrIF6r15M3r
NDIr15P3r54A5r54GQrIJErIJMr15V0r550ArILIr554Mr160Br160Br1619r55DMr1672rIPJr1699r16D7r16E2r16FUr
IUEr56PGr16OIr1720r177TrJ6ErJ7Dr17B7r586ErJ7Or5885r58GEr58KHr17LRrJAMr17NPr17NUr17O5r17OFr17OMr
17PRr59G0r1F2x4QBv5x89AvLJ46x7Gi"

/-- The fates as runs. -/
def mappingRuns : List Run :=
  readRuns mappingText

/-- How many code points a run covers. -/
def coveredBy (run : Run) : Nat :=
  match run.mark with
  | 'r' => 1
  | 'u' => 2 * run.length
  | _ => run.length

/-- What becomes of a code point; past the end of the table all are refused. -/
def fate (point : Nat) : Fate :=
  match locate? coveredBy mappingRuns point with
  | some (⟨_, 'v'⟩, _) => .kept
  | some (⟨_, 'i'⟩, _) => .replaced []
  | some (⟨_, 'u'⟩, offset) => if offset % 2 = 0 then .replaced [point + 1] else .kept
  | some (⟨[_, distance], 'p'⟩, _) => .replaced [point + distance]
  | some (⟨[_, distance], 'm'⟩, _) => .replaced [point - distance]
  | some (⟨points, 'r'⟩, _) => .replaced points
  | _ => .refused

/-- Map a text; none if a character of it is refused. -/
def mapped? : List Nat → Option (List Nat)
  | [] => some []
  | point :: rest =>
      match fate point with
      | .kept => (mapped? rest).map (point :: ·)
      | .replaced points => (mapped? rest).map (points ++ ·)
      | .refused => none

end IdResolution.Host
