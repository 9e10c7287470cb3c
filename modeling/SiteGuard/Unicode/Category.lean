import SiteGuard.Unicode.Runs

/-!
# Marks, letters and numbers

Runs of combining marks, and runs of alphabetic and of numeric characters.
-/

namespace SiteGuard
namespace Unicode

def markLines : List String :=
  [
    "Nlc M34 N7n M7 N7b M19 N1 M1 N1 M2 N1 M2 N1 M1 N20 Mb N1c Ml Ng M1 N2t M7 N2 M6 N2 M2 N1 M4",
    "Nz M1 Nu Mr N2j Mb N1m M9 N9 M1 No M4 N1 M9 N1 M3 N1 M5 N17 M3 N1n M9 N16 Mo N1 Mx N1i M3 N1",
    "Mi N1 M7 Na M2 Nt M3 N1k M1 N1 M7 N2 M2 N2 M3 N9 M1 Na M2 Nq M1 N2 M3 N1k M1 N1 M5 N4 M2 N2",
    "M3 N3 M1 Nu M2 N3 M1 Nb M3 N1k M1 N1 M8 N1 M3 N1 M3 Nk M2 Nm M6 N1 M3 N1k M1 N1 M7 N2 M2 N2",
    "M3 N7 M3 Na M2 Nu M1 N1n M5 N3 M3 N1 M4 N9 M1 N14 M5 N1j M1 N1 M7 N1 M3 N1 M4 N7 M2 Nb M2 Nt",
    "M3 N1k M1 N1 M7 N1 M3 N1 M4 N7 M2 Nb M2 Nf M1 Nc M4 N1j M2 N1 M7 N1 M3 N1 M4 N9 M1 Na M2 Nt",
    "M3 N1y M1 N4 M6 N1 M1 N1 M8 Ni M2 N1p M1 N2 M7 Nc M8 N2q M1 N2 M9 Nb M7 N21 M2 Nr M1 N1 M1",
    "N1 M1 N4 M2 N1d Mk N1 M2 N5 Mb N1 M10 N9 M1 N2s Mk Nn M4 N4 M3 N1 M3 N2 M7 N3 M4 Nd Mc N1 M1",
    "Na M4 Njj M3 Nqa M4 Ns M3 Nt M2 Nu M2 N1s Mw N9 M1 N19 M3 N1 M1 N39 M2 Ny M1 N3a Mc N4 Mc",
    "N63 M5 N1l Ma N1 Mt N2 M1 N1c Mv N1d M5 N1b Mh N12 M9 Nc M3 Nu Md N1k Me N1c Mk N48 M3 N1 Ml",
    "N4 M1 N6 M1 N2 M3 N5i M1s Nk0 Mx N2da M3 N3x M1 N2o Mw Nfe M6 N2x M2 Nn9w M4 N1 Ma Nw M2 N28",
    "M2 N7k M1 N3 M1 N4 M1 Nn M5 N4 M1 N2b M2 N1e Mi Nq Mi Nd M1 N12 M8 Np Md N18 M4 N1b Me N10",
    "M1 N1v Me Nc M1 N8 M2 N19 M3 N1e M1 N1 M3 N2 M2 N5 M2 N1 M1 N15 M5 N5 M2 N6k M8 N1 M2 Nfn4",
    "M1 Nkh Mg Ng Mg Nr1 M1 N6a M1 N45 M5 N1ae M3 N1 M2 N5 M4 N14 M3 N4 M1 N4l M2 Nfx M4 N1t M5",
    "N8t M2 N27 M4 N1y Mb N1d M4 N3e M3 N1h Mf N15 M1 N2 M2 Na M4 N19 Mb N7 M1 N1p M3 N10 Me Ng",
    "M2 N18 M1 Nc M3 N1c Me N8 M4 N1 M2 N2k Mc N6 M1 N2 M1 N4d Mc Nl M4 N1j M2 N1 M7 N2 M2 N2 M3",
    "N9 M1 Na M2 N2 M7 N3 M5 N1v M9 N1 M1 N2 M1 N1 M4 N1 M5 N1 M1 Ne M2 N2a Mi Nn M1 N29 Mk N6j",
    "M7 N2 M9 Nr M2 N2a Mh N2y Md N2t Mf N74 Mf N6t M6 N1 M2 N2 M4 N1 M1 N1 M2 N3x M7 N2 M7 N3 M1",
    "Ns Ma N14 M7 N1 M4 N8 M1 N9 Mb N1a Mg Nb9 M8 N1 M8 N2a Mm N1 Me N3e M6 N3 M1 N1 M2 N1 M7 N1",
    "M1 N1u M5 N1 M2 N1 M5 N9n M4 N9 M2 N1 M1 N1c M7 N3 M5 Nn M1 N44l M1 N6 Mf N8ug Mi N1xc M5",
    "N1n M7 Nt4 M1 N1 M1j N7 M4 N29 M1 Nb M2 Nf57 M2 N3mp M1a N2 Mn Nf2 M5 N3 M6 N8 M8 N2 M7 Nu",
    "M4 N44 M3 N1iz M1j N4 M1e N8 M1 Ne M1 Nm M5 N1 Mf N11s M7 N1 Mh N2 M7 N1 M2 N1 M5 N2s M1 N4g",
    "M7 Naf M1 N1p M4 Ne4 M4 N72 M2 Nkg M7 N31 M7 Ngzhx M6o N47bk"]

def letterLines : List String :=
  [
    "O1c Na O7 Aq O6 Aq O1b A1 O7 N2 O1 A1 O3 N1 A1 O1 N3 O1 An O1 Av O1 Acq O4 Ac Oe A5 O7 A1 O1",
    "A1 O2e A1 O16 A5 O1 A2 O2 A4 O1 A1 O6 A1 O1 A3 O1 A1 O1 Ak O1 A2b O1 A3v O8 A4m O1 A12 O2 A1",
    "O6 A15 O13 Ae O1 A1 O1 A2 O1 A2 O1 A1 O8 Ar O4 A4 Ot Ab O5 A1k O1 A7 Na O4 A2u O1 A8 O4 A8",
    "O4 A3 Na A3 O2 A1 Og A1c Od A2t Oe Na Ax O9 A2 O4 A1 O5 Ao O2 Aj Oj Ap O7 Ab O5 Ao O1 A6 Oh",
    "A16 Oa Ac O3 A7 O6 A24 O1 Ag O1 A3 O4 Af O2 Na O1 Aj O1 A8 O2 A2 O2 Am O1 A7 O1 A1 O3 A4 O3",
    "A8 O2 A2 O2 A2 O1 A1 O8 A1 O4 A2 O1 A5 O2 Na A2 O2 N6 O2 A1 O4 A3 O1 A6 O4 A2 O2 Am O1 A7 O1",
    "A2 O1 A2 O1 A2 O4 A5 O4 A2 O2 A2 O4 A1 O7 A4 O1 A1 O7 Na A6 Ob A3 O1 A9 O1 A3 O1 Am O1 A7 O1",
    "A2 O1 A5 O3 A9 O1 A3 O1 A2 O3 A1 Of A4 O2 Na O9 A4 O4 A3 O1 A8 O2 A2 O2 Am O1 A7 O1 A2 O1 A5",
    "O3 A8 O2 A2 O2 A2 O9 A2 O4 A2 O1 A5 O2 Na O1 A1 N6 Oa A2 O1 A6 O3 A3 O1 A4 O3 A2 O1 A1 O1 A2",
    "O3 A2 O3 A3 O3 Ac O4 A5 O3 A3 O1 A3 O3 A1 O6 A1 Oe Nd Od Ad O1 A3 O1 An O1 Ag O3 A8 O1 A3 O1",
    "A3 O8 A2 O1 A3 O2 A1 O2 A4 O2 Na O8 N7 O1 A4 O1 A8 O1 A3 O1 An O1 Aa O1 A5 O3 A8 O1 A3 O1 A3",
    "O8 A2 O6 A2 O1 A4 O2 Na O1 A3 Oc Ad O1 A3 O1 A15 O2 A8 O1 A3 O1 A3 O1 A1 O5 A4 N7 A5 O2 Nj",
    "O1 A6 O1 A3 O1 Ai O3 Ao O1 A9 O1 A1 O2 A7 O8 A6 O1 A1 O1 A8 O6 Na O2 A2 Od A1m O5 A7 O6 A1",
    "O2 Na O13 A2 O1 A1 O1 A5 O1 Ao O1 A1 O1 Aj O1 A3 O2 A5 O1 A1 O6 A1 O2 Na O2 A4 Ow A1 Ov Nk",
    "Oc A8 O1 A10 O4 Aj O4 Ag O1 A10 O1v A1j O1 A1 O2 A5 Na O6 A1s Na A4 O2 A12 O1 A1 O5 A1 O2",
    "A17 O1 A99 O1 A4 O2 A7 O1 A1 O1 A4 O2 A15 O1 A4 O2 Ax O1 A4 O2 A7 O1 A1 O1 A4 O2 Af O1 A1l",
    "O1 A4 O2 A1v Oe Nk O3 Ag Og A2e O2 A6 O3 Ah8 O2 Ah O1 Aq O5 A23 O3 Ab O7 Ak Ob Al Oc Ak Oc",
    "Ad O1 A3 O1 A2 Oc A1g O2 Aj Oe A1 O4 A1 O3 Na O6 Na Om Na O6 A2h O7 A17 O5 A1y Oa Av O1 Ac",
    "O4 A9 Od Na Au O2 A5 Ob A18 O4 Aq O6 Nb O11 As O4 A1r O2 Ak Ob Na O6 Na Od A1 On A2 Ob A3",
    "O1d A1g O1 Af O1 A8 O3 Na O12 A16 O2 A4 Na A18 O1 Ab Oe A1j O9 Na O3 A3 Na A10 O2 A9 O7 A17",
    "O2 A3 O15 A4 O1 A6 O1 A2 O3 A1 O5 A5c O13 Ae Ob A7q O2 A6 O2 A12 O2 A6 O2 A8 O1 A1 O1 A1 O1",
    "A1 O1 Av O2 A1h O1 A7 O1 A1 O3 A3 O1 A7 O3 A4 O2 A6 O4 Ad O5 A3 O1 A7 O37 N1 A1 O2 N6 O5 A1",
    "Na O6 Ad O2t A1 O4 A1 O2 Aa O1 A1 O3 A5 O6 A1 O1 A1 O1 A1 O1 A4 O1 Ab O2 A4 O5 A5 O4 A1 O1",
    "Ng A15 N1 Ok6 N1o Oq A1g Nm Ohi Nu Ovg A6d O6 A4 O3 A2 O9 N1 O2 A12 O1 A1 O5 A1 O2 A1k O7 A1",
    "Og An O9 A7 O1 A7 O1 A7 O1 A7 O1 A7 O1 A7 O1 A7 O1 A7 O1 Aw O1b A1 Od1 A3 Op A9 O7 A5 O2 A5",
    "O4 A2e O6 A3 O1 A2i O1 A4 O5 A17 O1 A2m O3 N4 Oa Aw O1c Ag Ow Na Ou N8 O1 Nf Ow Na O13 Nf",
    "O8w A534 O1s Ah3h O1v A1a O2 A7h O3 Ag Na A2 Ok A1b O5 A8 O3 A35 O13 A9 O2 A2v O2 A1s O5 A2",
    "O1 A1 O1 A5 Oo Ak O1 Ax O8 N6 Oa A1g Oc A1w O1 A1 Oa Na Oo A6 O3 A1 O1 A3 Na Ax O5 Az Od At",
    "O3 A1f O1 Ac Of A1 Na O6 Ag Na A5 O1 A1j O9 Ae O2 Na O6 An O3 A1x O1 A1 O1 A1 Oo A3 O2 Ag O2",
    "A4 Ob A6 O2 A6 O2 A6 O9 A7 O1 A7 O1 A17 O1 Ae O6 A3f O5 Na O6 A8mc Oc An O4 A1d O6is Aa6 O2",
    "A2y O12 A7 Oc A5 O5 Ac O1 Ad O1 A5 O1 A1 O1 A2 O1 A2 O1 A30 Ox Aa3 Oi A1s O2 A1i O14 Ac O38",
    "A5 O1 A3r Oj Na O7 Aq O6 Aq Ob A2h O3 A6 O2 A6 O2 A6 O2 A3 Oz Ac O1 Aq O1 Aj O1 A2 O1 Af O2",
    "Ae Oy A3f Oc N19 Oc A1h N4 Oh N2 O6s At O3 A1d Og Nr O4 Aw N4 O9 Au O5 A17 O5 Au O2 A10 O4",
    "A8 O1 A5 O16 A4e O2 Na O6 A10 O4 A10 O4 A14 O8 A1g Oc Ab O1 Af O1 A7 O1 A2 O1 Ab O1 Af O1 A7",
    "O1 A2 O1v A8n O9 Am Oa A8 Oo A6 O1 A16 O1 A9 O1x A6 O2 A1 O1 A18 O1 A2 O3 A1 O2 An O2 N8 An",
    "O2 N7 Av O8 N9 O1c Aj O1 A2 O5 N5 Am N6 O4 Aq O1y A1k O4 N2 A2 Ng O2 N1a A4 O1 A2 O5 A8 O1",
    "A3 O1 At Oa N9 On At N2 O1 At N3 Ow A8 O1 As O6 N5 Og A1i Oa Am O2 N8 Aj O5 N8 Ai On N7 O28",
    "A21 O1j A1f Od A1f O7 N6 A14 O8 Na O86 Nv O1 A16 O1 A2 O3 A2 O26 At Na A1 O8 Am Ob N4 Or Ai",
    "O1a Al N7 Ok An O9 A1y Oc Nu O1 A5 Oa A1l O9 A1 Od Ap O7 Na O6 A1f O3 Na O4 A4 O8 Az O3 A1",
    "O9 A1s O1 A4 O9 A2 Na A1 O1 A1 O4 Nk Ob Ai O1 Ay O2 A1 O6 A4 O1q A7 O1 A1 O1 A4 O1 Af O1 Aa",
    "O7 A1l O7 Na O6 A4 O1 A8 O2 A2 O2 Am O1 A7 O1 A2 O1 A5 O3 A8 O2 A2 O2 A2 O3 A1 O6 A1 O5 A7",
    "O4c A1u O1 A3 O1 A4 O5 Na O5 A3 Ou A1u O2 A2 O1 A1 O8 Na O4m A1i O2 A7 Op A6 Oy A1r O1 A1 O3",
    "A1 Ob Na O12 A1i O2 A1 O7 Na O1i Ar O2 Ae O5 Nc O4 A7 O55 A1l O2v A1s Nj Oc A8 O2 A1 O2 A8",
    "O1 A2 O1 Au O1 A2 O2 A2 O2 A4 Od Na O1y A8 O2 A1a O2 A6 O1 A1 O1 A2 Or A1f O2 Aa Oh A20 O5",
    "A1 Oi A21 O7b A9 O1 A19 O1 A7 O1 A1 Of Nt O5 Au O2 Am O1 Ae O21 A7 O1 A2 O1 A18 O3 A1 O1 A2",
    "O1 A3 O1 A1 O2 A2 O8 Na O6 A6 O1 A2 O1 A11 O1 A2 O1 A4 O1 A1 O7 Na O8m An O9 Ah O1 A15 O3 A3",
    "Of Na O2e A1 Of Nl O17 Apm O2u A33 Oh A5g O218 A2p Of Ats Oh A6 O33t Ag7 O6nt Aft O7 Av O1",
    "Na O6 A27 O1 Na O6 Au Oi A1c Og A4 Oc Na O1 N7 O1 Al O5 Aj Oj4 A1s Nn O2x A23 O4 A1l O7 Ah",
    "O1s A2 O1 A1 Oc A2 Oe A4qg O8 Aye O16 A9 O6w7 A4 O1 A7 O1 A2 O1 A83 Of A1 Ot A3 O2 A1 Oe A4",
    "O8 Ab0 O1s4 A2z O5 Ad O3 A9 O7 Aa O4 A1 O4dd Nk Oc Nk O30 Np O3r A2d O1 A1z O1 A2 O2 A1 O2",
    "A2 O2 A4 O1 Ac O1 A1 O1 A7 O1 A1t O1 A4 O2 A8 O1 A7 O1 As O1 A4 O1 A5 O1 A1 O3 A7 O1 A9g O2",
    "Ap O1 Ap O1 Av O1 Ap O1 Av O1 Ap O1 Av O1 Ap O1 Av O1 Ap O1 A8 O2 N1e O1ds Av O6 A6 O5x A7",
    "O1 Ah O2 A7 O1 A2 O1 A5 O5 A1q Ox A1 O34 A19 Oa A7 O2 Na O4 A1 O8x Au Oi A18 O4 Na Od2 As O4",
    "Na Okm A7 O1 A4 O1 A2 O1 Af O1 A5h O2 N9 O1c A1w O3 A1 O3 A1 O4 Na Olz N1n O1 N3 O1 N4 O24",
    "N19 O1 Nf O5e A4 O1 Ar O1 A2 O1 A1 O2 A1 O1 Aa O1 A4 O1 A1 O1 A1 O6 A1 O4 A1 O1 A1 O1 A1 O1",
    "A3 O1 A2 O1 A1 O2 A1 O1 A1 O1 A1 O1 A1 O1 A1 O1 A2 O1 A1 O2 A4 O1 A7 O1 A4 O1 A4 O1 A1 O1 Aa",
    "O1 Ah O5 A3 O1 A5 O1 Ah Og4 Nd Oz Aq O6 Aq O6 Aq O21y Na Osm Awyo Ow A37e O6 A66 O2 A4g2 Oe",
    "A5rl O2e7 Af2 O15u A3t7 O5 A38g Ojgwg"]

def markRuns : Runs := Runs.ofLines markLines

def letterRuns : Runs := Runs.ofLines letterLines

def isMark (c : Char) : Bool :=
  (markRuns.find c.toNat).any fun run => run.kind = 'M'

def isLetter (c : Char) : Bool :=
  (letterRuns.find c.toNat).any fun run => run.kind = 'A'

/-- Whether a character is alphabetic or of one of the general categories of numbers. -/
def isLetterOrNumber (c : Char) : Bool :=
  (letterRuns.find c.toNat).any fun run => run.kind = 'A' ∨ run.kind = 'N'

end Unicode
end SiteGuard
