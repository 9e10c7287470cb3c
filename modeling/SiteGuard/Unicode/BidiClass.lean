import SiteGuard.Unicode.Runs

/-!
# Bidirectional classes

The directions of characters that the rules for host names tell apart.  Each run
is marked with a letter for its class; `X` is any class that is not told apart.
-/

namespace SiteGuard
namespace Unicode

inductive BidiClass where
  | leftToRight
  | rightToLeft
  | arabicLetter
  | arabicNumber
  | europeanNumber
  | europeanSeparator
  | europeanTerminator
  | commonSeparator
  | nonspacingMark
  | boundaryNeutral
  | otherNeutral
  /-- A class that no host name may hold. -/
  | excluded
  deriving DecidableEq, Repr

def bidiClassLines : List String :=
  [
    "B9 X5 Be X5 O2 T3 O5 P1 C1 P1 C2 Ea C1 O6 Lq O6 Lq O4 B6 X1 Bq C1 O1 T4 O4 L1 O2 B1 O2 T2 E2",
    "O1 L1 O3 E1 L1 O5 Ln O1 Lv O1 Lch O2 L7 Oe L2 Oe L5 O9 L1 Oh M34 L4 O2 L8 O1 L5 O2 L1 O1 L32",
    "O1 L3w M7 L74 O1 L2 O2 T1 R1 M19 R1 M1 R1 M2 R1 M2 R1 M1 R1k N6 O2 A1 T2 A1 C1 A1 O2 Mb A1c",
    "Ml Na T1 N2 A3 M1 A2t M7 N1 O1 M6 A2 M2 O1 M4 A2 Ea An M1 Au Mr A2j Mb Af R17 M9 R2 O4 R3 M1",
    "Ro M4 R1 M9 R1 M3 R1 M5 R17 M3 R4 A1c N2 A5 M9 A16 Mo N1 Mw L1j M1 L1 M1 L4 M8 L4 M1 L3 M7",
    "La M2 Lt M1 L1m M1 L4 M4 L8 M1 Lk M2 Le T2 L7 T1 L2 M1 L2 M2 L1l M1 L4 M2 L4 M2 L2 M3 L3 M1",
    "Lu M2 L3 M1 Lb M2 L1l M1 L4 M5 L1 M2 L4 M1 Lk M2 Ld T1 L8 M6 L1 M1 L1m M1 L2 M1 L1 M4 L8 M1",
    "L7 M2 Lb M2 Lu M1 L1p M1 Lc M1 L11 O6 T1 O1 L5 M1 L3 M1 L1j M1 L1 M3 L5 M3 L1 M4 L7 M2 Lb M2",
    "Lk O7 L2 M1 L1m M1 Lf M2 Lk M2 Ls M2 L1l M2 L4 M4 L8 M1 Lk M2 Lt M1 L20 M1 L7 M3 L1 M1 L2i",
    "M1 L2 M7 L4 T1 L7 M8 L2q M1 L2 M9 Lb M7 L21 M2 Lr M1 L1 M1 L1 M1 O4 L1f Me L1 M5 L1 M2 L5 Mb",
    "L1 M10 L9 M1 L2u M4 L1 M6 L1 M2 L2 M2 Lp M2 L4 M3 Lg M4 Ld M1 L2 M2 L6 M1 Lf M1 Ljj M3 L1c",
    "Oa L2u O1 Lhr X1 Lq O2 L39 M3 Lt M2 Lu M2 Lu M2 L1s M2 L1 M7 L8 M1 L2 Mb L7 T1 L1 M1 Li Oa",
    "L6 Ob M3 B1 M1 L39 M2 Ly M1 L3a M3 L4 M2 L9 M1 L6 M3 L4 O1 L3 O2 L48 Oy Ln M2 L2 M1 L1m M1",
    "L1 M7 L1 M1 L1 M1 L2 M8 L6 Ma L2 M1 L1c Mv L1d M4 L1c M1 L1 M5 L1 M1 L5 M1 L14 M9 Lc M2 Lw",
    "M4 L2 M2 L1 M3 L1k M1 L1 M2 L3 M1 L1 M3 L1m M8 L2 M2 L48 M3 L1 Md L1 M7 L4 M1 L6 M1 L3 M2",
    "L5i M1s Lcd O1 L1 O3 Lb O3 Ld O3 Ld O3 Ld O2 L1 Xb B3 L1 R1 Oo X7 C1 T5 Of C1 Oq X1 B6 X4 B6",
    "E1 L3 E6 P2 O3 L1 Ea P2 O3 Lh T1c Mx Lf O2 L1 O4 L1 O2 La O1 L1 O3 L5 O6 L1 O1 L1 O1 L1 O1",
    "L4 T1 Lb O2 L4 O5 L5 O4 L2 Og L15 O3 L4 O3m P1 T1 O82 L1x Oq L1 O41 Lp Ob Ll O14 Ek L26 Oci",
    "L1 O9f L74 Ohg L2 Ow L1 O2x L6d O6 L4 M3 L7 O7 L3j M1 L2o Mw O2m Ly Oq L1 O2h Lc O5y Lq Oc",
    "L4 X1 O4 L3 Op L9 M4 L2 O1 L5 O2 L5 O3 L2h M2 O2 L3 O1 L2i O1 L5g O10 L1l O2 L1d Og Ls O3",
    "L1e Of Lc O4 L4n O4 L2r O2 Lv O1 L534 O1s Lh3k O1j L92 O3 L2n M4 O1 Ma O2 Lu M2 L28 M2 Le Oy",
    "L2u O1 L3d M1 L3 M1 L4 M1 Lp M2 L1 O4 M1 Lb T2 L1m O4 L24 M2 Lq Mi Ld M1 L12 M8 Lp Mb L1a M3",
    "L1c M1 L2 M4 L2 M2 L13 M1 L1v M6 L2 M2 L2 M2 Lc M1 L8 M1 L1b M1 L1f M1 L1 M3 L2 M2 L5 M2 L1",
    "M1 L16 M2 L8 M1 L37 O2 L3d M1 L2 M1 L4 M1 Lfn3 R1 M1 Ra P1 R12 Adq Oi A3j O1 Bw Ad O3 Mg Oa",
    "L6 Mg Ow C1 O1 C1 L1 O1 C1 O9 T1 O2 P2 O3 L1 O1 T2 O1 L4 A3z B1 L1 O2 T3 O5 P1 C1 P1 C2 Ea",
    "C1 O6 Lq O6 Lq Ob L3e T2 O3 T2 L1 O7 L1 B9 O5 B2 L75 O1 L1q O25 L3 Od L3 O1 L2k M1 L6a M1 Er",
    "L3e M5 Lw5 R7z O1 R69 M3 R1 M2 R5 M4 R14 M3 R4 M1 R4l M2 R2a O7 Rcg A10 M4 A8 Na A6 Na Rv M5",
    "O1 R6p Nv R18 M2 Rj A1o M4 R1c Am Mb Av Ri M4 R3e L1 M1 L1i Mf Lb Ok La M1 L2 M2 La M3 L1d",
    "M4 L2 M2 L7 M1 L1p M3 L10 M5 L1 M8 L1q M1 Lc M2 L1g M9 La M4 L2 M1 L2n M3 L2 M1 L1 M2 L6 M1",
    "L2 M1 L4d M1 L3 M8 Ll M2 L1l M2 L3 M1 L11 M7 L3 M5 L1y M6 Ld M1 L1 M1 L1 M1 Le M2 L2d M8 L2",
    "M3 L1 M1 Ln M1 L2c M6 L1 M1 L4 M2 L1 M2 L6m M4 L6 M2 L1 M2 Lr M2 L2d M8 L2 M1 L1 M2 Lv Od",
    "L1q M1 L1 M1 L2 M6 L1 M1 L2t M3 L2 M4 L1 M5 L77 M9 L1 M2 L74 M2 L1 M1 L4 M1 L40 M4 L2 M2 L4",
    "M1 Lw M6 L2 M2 L14 M6 L2 M4 L8 M1 L9 M6 L2 M3 L1a Md L1 M2 Lba M7 L1 M6 L2c Mm L2 M7 L1 M2",
    "L1 M2 L3e M6 L3 M1 L1 M2 L1 M7 L1 M1 L20 M2 L3 M1 L1 M1 L9n M2 Lb M2 L1g M5 L5 M1 L1 M1 Ln",
    "M1 L3e O8 T4 Oh L40e M1 L6 Mf L8ug Mc L3 M3 L1xc M5 L1n M7 Lt4 M1 L1r M4 L27 O1 L1 M1 Lf5k",
    "M2 L1 B4 L3mk M1a L2 Mn Lf4 M3 L9 B8 M8 L2 M7 Lu M4 L1n O2 Ll O1u M3 O1 L56 O2f Lp0 O1 L1l",
    "O1 L1l O1 L1l O1 L1l O1 La E1e Le8 M1j L4 M1e L8 M1 Le M1 Lm M5 L1 Mf L11s M7 L1 Mh L2 M7 L1",
    "M2 L1 M5 L2s M1 L4g M7 Laf M1 L1p M4 Lf T1 Ldo M4 L72 M2 Leo R5s M7 R31 M7 Rmd A28 R1s A28",
    "R4w A6o O2 Ae R74 O18 L4 O2s Lc Of L2 Of L1 Of L1 O11 La Eb O5 Lv O1 L1m O6 L1p O1 L4y O6",
    "L4a Orc L4 Oh L3 Od L3 O3b L4 O2n L6 Oc L4 O1 Lf Oc L4 O1k L8 Oa L6 O14 L8 Ou L2 O2 L26 O9g",
    "Lc Oe L2 Od L3 O9 L7 O1a L1 O7 L8 Oe L4 O9 L7 O9 L7 O43 L1 O1j L11 Ea Lsk B2 L1eke B2 L1eke",
    "B2 L1eke B2 L1eke B2 L1eke B2 L1eke B2 L1eke B2 L1eke B2 L1eke B2 L1eke B2 L1eke B2 L1eke",
    "B76 M6o B2s0 L1bem B2 L1eke B2 L1eke B2"]

def bidiClassRuns : Runs := Runs.ofLines bidiClassLines

def BidiClass.ofKind : Char → BidiClass
  | 'L' => .leftToRight
  | 'R' => .rightToLeft
  | 'A' => .arabicLetter
  | 'N' => .arabicNumber
  | 'E' => .europeanNumber
  | 'P' => .europeanSeparator
  | 'T' => .europeanTerminator
  | 'C' => .commonSeparator
  | 'M' => .nonspacingMark
  | 'B' => .boundaryNeutral
  | 'O' => .otherNeutral
  | _ => .excluded

def bidiClass (c : Char) : BidiClass :=
  (bidiClassRuns.find c.toNat).elim .excluded fun run => BidiClass.ofKind run.kind

end Unicode
end SiteGuard
