import SiteGuard.Unicode.Runs

/-!
# Joining types

How a character connects to its neighbours in a cursive script.
-/

namespace SiteGuard
namespace Unicode

inductive JoiningType where
  | left
  | right
  | dual
  | transparent
  | none
  deriving DecidableEq, Repr

def joiningTypeLines : List String :=
  [
    "U4t T1 Ugi T34 U7n T7 U7b T19 U1 T1 U1 T2 U1 T2 U1 T1 U20 Tb U1 T1 U3 D1 U1 R4 D1 R1 D1 R1",
    "D5 R4 Dd U1 D7 R1 D2 Tl Ue D2 T1 R3 U1 R3 Dg Ri D12 R1 D2 R9 D1 R1 D1 R1 D2 R2 U1 R1 T7 U2",
    "T6 U2 T2 U1 T4 R2 Ua D3 U2 D1 Uf T1 R1 T1 D3 R5 D4 R1 D9 R1 D1 R1 D1 R1 D2 R1 Tr U2 R1 Db R3",
    "Df R2 D4 R1 D1 R2 D3 R2 D6 U12 Tb Up Dx T9 U9 T1 Uo T4 U1 T9 U1 T3 U1 T5 Ui R1 D5 R2 D1 R1",
    "Da R1 D1 R3 T3 U4 D1 U1 D4 U1 R1 D1 R2 U5 Rj U3 D1 U2 D5 R1 D1 U7 T9 Da R3 U1 R1 D2 R2 D6 R1",
    "Df U1 To U1 Tw U1j T1 U1 T1 U4 T8 U4 T1 U3 T7 Ua T2 Ut T1 U1m T1 U4 T4 U8 T1 Uk T2 Uq T1 U2",
    "T2 U1l T1 U4 T2 U4 T2 U2 T3 U3 T1 Uu T2 U3 T1 Ub T2 U1l T1 U4 T5 U1 T2 U4 T1 Uk T2 Um T6 U1",
    "T1 U1m T1 U2 T1 U1 T4 U8 T1 U7 T2 Ub T2 Uu T1 U1p T1 Uc T1 U1e T1 U3 T1 U1j T1 U1 T3 U5 T3",
    "U1 T4 U7 T2 Ub T2 Ut T1 U1m T1 U2 T1 U6 T1 U5 T2 Uk T2 Us T2 U1l T2 U4 T4 U8 T1 Uk T2 Ut T1",
    "U20 T1 U7 T3 U1 T1 U2i T1 U2 T7 Uc T8 U2q T1 U2 T9 Ub T7 U21 T2 Ur T1 U1 T1 U1 T1 U1j Te U1",
    "T5 U1 T2 U5 Tb U1 T10 U9 T1 U2u T4 U1 T6 U1 T2 U2 T2 Up T2 U4 T3 Ug T4 Ud T1 U2 T2 U6 T1 Uf",
    "T1 Ujj T3 Uqa T3 Ut T2 Uu T2 Uu T2 U1s T2 U1 T7 U8 T1 U2 Tb U9 T1 U15 D1 U3 T3 U1 T1 Ug D2h",
    "Uc T2 Dy T1 D1 U39 T3 U4 T2 U9 T1 U6 T3 U63 T2 U2 T1 U1m T1 U1 T7 U1 T1 U1 T1 U2 T8 U6 Ta U2",
    "T1 U1c T1a U2 Tc Uk T4 U1c T1 U1 T5 U1 T1 U5 T1 U14 T9 Uc T2 Uw T4 U2 T2 U1 T3 U1k T1 U1 T2",
    "U3 T1 U1 T3 U1m T8 U2 T2 U48 T3 U1 Td U1 T7 U4 T1 U6 T1 U3 T2 U5i T1s Uej T1 U2 T2 Uq T5 U1d",
    "T5 U5 T6 U2o Tx U2da T3 U3x T1 U2o Tw Ufe T4 U2z T2 Un9w T4 U1 Ta Uw T2 U28 T2 U7k T1 U3 T1",
    "U4 T1 Up T2 U5 T1 Uj D1e L1 U29 T2 Uq Ti Ud T1 U12 T8 Up Tb U1a T3 U1c T1 U2 T4 U2 T2 U13 T1",
    "U1v T6 U2 T2 U2 T2 Uc T1 U8 T1 U1b T1 U1f T1 U1 T3 U2 T2 U5 T2 U1 T1 U16 T2 U8 T1 U6m T1 U2",
    "T1 U4 T1 Ufn4 T1 Ukh Tg Ug Tg U5r T1 U6x T3 Ue9 T1 U6a T1 U45 T5 U1ae T3 U1 T2 U5 T4 U14 T3",
    "U4 T1 U3k D5 R1 U1 R1 U1 R2 U2 L1 R5 D4 L1 D5 R1 D3 R1 U2 R1 T2 U4 D4 R1 U40 D1 R1 D1 R3 D3",
    "R1 D2 R1 D1 R2 D1 R1 Un R4 D2 U9d L1 Dx R1 D1 T4 U1t T5 U8t T2 Ul R1 D2 U1 D2 U1e T6 U1c D3",
    "R1 Dh U1 Tb D3 R1 Ur D4 R2 Dc T4 U16 D1 U1 D2 R3 U1 D1 R2 D2 R1 D2 U1 D1 R2 D1 U4 R1 D1 L1",
    "U1h T1 U1i Tf U15 T1 U2 T2 Ua T3 U1d T4 U2 T2 U7 T1 U1p T3 U10 T5 U1 T8 U1q T1 Uc T2 U1g T9",
    "Ua T4 U2 T1 U2n T3 U2 T1 U1 T2 U6 T1 U2 T1 U4d T1 U3 T8 Ul T2 U1l T2 U3 T1 U11 T7 U3 T5 U1y",
    "T6 Ud T1 U1 T1 U1 T1 Ue T2 U2d T8 U2 T3 U1 T1 Un T1 U2c T6 U1 T1 U4 T2 U1 T2 U6m T4 U6 T2 U1",
    "T2 Ur T2 U2d T8 U2 T1 U1 T2 U2y T1 U1 T1 U2 T6 U1 T1 U2t T1 U1 T1 U2 T4 U1 T5 U77 T9 U1 T2",
    "U74 T2 U1 T1 U4 T1 U40 T4 U2 T2 U4 T1 Uw Ta U14 T6 U2 T4 U8 T1 U9 T6 U2 T3 U1a Td U1 T2 U5i",
    "T1 U1 T3 U1 T1 U5l T7 U1 T6 U1 T1 U2a Tm U2 T7 U1 T2 U1 T2 U3e T6 U3 T1 U1 T2 U1 T7 U1 T1",
    "U20 T2 U3 T1 U1 T1 U9n T2 Ub T2 U1g T5 U5 T1 U1 T1 Un T1 U445 Th U6 Tf U8ug Tc U3 T3 U1xc T5",
    "U1n T7 Ut4 T1 U1r T4 U29 T1 Uf5k T2 U1 T4 U3mk T1a U2 Tn Uf4 T3 U9 Tg U2 T7 Uu T4 U44 T3",
    "U1iz T1j U4 T1e U8 T1 Ue T1 Um T5 U1 Tf U11s T7 U1 Th U2 T7 U1 T2 U1 T5 U2s T1 U4g T7 Uaf T1",
    "U1p T4 Ue4 T4 U72 T2 U6r T1 U2 T1 U7 T2 U5 T1 Ud6 T7 U15 D1w T8 Ugzat T1 Uu T2o U3k T6o",
    "U47bk"]

def joiningTypeRuns : Runs := Runs.ofLines joiningTypeLines

def joiningType (c : Char) : JoiningType :=
  match joiningTypeRuns.find c.toNat with
  | Option.none => .none
  | some run =>
    match run.kind with
    | 'L' => .left
    | 'R' => .right
    | 'D' => .dual
    | 'T' => .transparent
    | _ => .none

end Unicode
end SiteGuard
