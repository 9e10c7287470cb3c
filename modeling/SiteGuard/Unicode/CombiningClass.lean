import SiteGuard.Unicode.Runs

/-!
# Canonical combining classes

Runs of characters of class zero are `Z`, other runs are `C` with their class.
-/

namespace SiteGuard
namespace Unicode

def combiningClassLines : List String :=
  [
    "Zlc Cl.6e C1.6g C4.64 C1.6g C1.60 C5.64 C2.5m C4.64 C2.5m Cb.64 C5.1 C4.64 C8.6e C1.6o C1.6e",
    "C3.64 C3.6e C2.64 Z1 C3.6e C4.64 C1.6e C1.6g C2.64 C1.6e C1.6h C2.6i C1.6h C2.6i C1.6h Cd.6e",
    "Z7n C5.6e Z7d C1.64 C4.6e C1.64 C3.6e C1.66 C1.64 C6.6e C6.64 C2.6e C1.64 C2.6e C1.66 C1.6c",
    "C1.6e C1.a C1.b C1.c C1.d C1.e C1.f C1.g C1.h C1.i C2.j C1.k C1.l C1.m Z1 C1.n Z1 C1.o C1.p",
    "Z1 C1.6e C1.64 Z1 C1.i Z20 C8.6e C1.u C1.v C1.w Z1c C1.r C1.s C1.t C1.u C1.v C1.w C1.x C1.y",
    "C2.6e C2.64 C5.6e C1.64 C2.6e C1.64 Zg C1.z Z2t C7.6e Z2 C4.6e C1.64 C1.6e Z2 C2.6e Z1 C1.64",
    "C2.6e C1.64 Zz C1.10 Zu C1.6e C1.64 C2.6e C1.64 C2.6e C3.64 C1.6e C2.64 C1.6e C1.64 C3.6e",
    "C1.64 C1.6e C1.64 C1.6e C1.64 C1.6e C1.64 C2.6e Z4g C7.6e C1.64 C1.6e Z9 C1.64 Zo C4.6e Z1",
    "C9.6e Z1 C3.6e Z1 C5.6e Z17 C3.64 Z1n C2.6e C3.64 C4.6e Z16 C5.6e C5.64 Ce.6e Z1 C1.64 C2.6e",
    "C1.64 C2.6e C1.64 C3.6e C3.64 C1.r C1.s C1.t C3.6e C1.64 C2.6e C2.64 C5.6e Z1o C1.7 Zg C1.9",
    "Z3 C1.6e C1.64 C2.6e Z2v C1.7 Zg C1.9 Z1c C1.6e Z1p C1.7 Zg C1.9 Z32 C1.7 Zg C1.9 Z32 C1.7",
    "Zg C1.9 Z3j C1.9 Z32 C1.7 Zg C1.9 Z7 C1.2c C1.2j Z2t C1.7 Zg C1.9 Z31 C2.9 Zg C1.9 Z3g C1.9",
    "Z31 C2.2v C1.9 Zd C4.2z Z30 C2.3a C1.9 Zd C4.3e Z24 C2.64 Zr C1.64 Z1 C1.64 Z1 C1.60 Z1j",
    "C1.3l C1.3m Z1 C1.3o Z5 C4.3m Z2 C1.3m Z1 C2.6e C1.9 Z1 C2.6e Z1q C1.64 Z34 C1.7 Z1 C2.9 Z2a",
    "C1.64 Zjz C3.6e Zqc C2.9 Zu C1.9 Z4d C1.9 Za C1.6e Z5n C1.6c Z3z C1.66 C1.6e C1.64 Z63 C1.6e",
    "C1.64 Z1z C1.9 Zk C8.6e Z2 C1.64 Z1c C5.6e C6.64 C2.6e C1.64 Z1 C2.64 C2.6e C2.64 C5.6e",
    "C1.64 C4.6e Z2t C1.7 Zf C1.9 Z12 C1.6e C1.64 C7.6e Z1i C2.9 Z1m C1.7 Zb C2.9 Z1v C1.7 Z48",
    "C3.6e Z1 C1.1 C5.64 C2.6e C4.64 C1.6e Z1 C7.1 Z4 C1.64 Z6 C1.6e Z3 C2.6e Z5i C2.6e C1.64",
    "C7.6e C1.64 C2.6e C1.6i C1.5y C1.64 C1.5m C11.6e C1.6g C2.6c C1.64 C1.62 C1.6e C1.6h C1.64",
    "C1.6e C1.64 Zk0 C2.6e C2.1 C4.6e C3.1 C2.6e Z4 C1.6e Z3 C2.1 C1.6e C1.64 C1.6e C2.1 C4.64",
    "C1.6e Z2da C3.6e Z3x C1.9 Z2o Cw.6e Zfe C1.62 C1.6c C1.6g C1.66 C2.68 Z2x C2.8 Zn9w C1.6e Z4",
    "Ca.6e Zw C2.6e Z28 C2.6e Z7o C1.9 Z11 C1.9 Z47 C1.9 Zr Ci.6e Z1l C3.64 Z11 C1.9 Z2n C1.7 Zc",
    "C1.9 Z6n C1.6e Z1 C2.6e C1.64 Z2 C2.6e Z5 C2.6e Z1 C1.6e Z1g C1.9 Z6u C1.9 Zfn4 C1.q Zld",
    "C7.6e C7.64 C2.6e Zr1 C1.64 Z6a C1.64 Z45 C5.6e Z1aq C1.64 Z1 C1.6e Z14 C1.6e C1.1 C1.64 Z4",
    "C1.9 Z4l C1.6e C1.64 Zfx C4.6e Z1t C5.6e Z8t C2.6e Z28 C3.64 Z1y C2.64 C3.6e C1.64 C1.6e",
    "C4.64 Z1d C1.6e C1.64 C1.6e C1.64 Z5c C1.9 Z15 C1.9 Ze C1.9 Z1l C1.9 C1.7 Z1x C3.6e Z1c C2.9",
    "Z1q C1.7 Z24 C1.9 Z9 C1.7 Z2y C1.9 C1.7 Z4y C1.7 C1.9 Z28 C2.7 Zg C1.9 Zo C7.6e Z3 C5.6e Z2h",
    "C3.9 Zg C2.6e Z2n C1.9 Z3 C1.7 Zn C1.6e Z2r C1.9 C1.7 Z6z C1.9 C1.7 Z3i C1.9 Z3a C1.9 C1.7",
    "Z37 C1.9 Z7h C1.9 C1.7 Z76 C2.9 Z4 C1.7 Z4c C1.9 Z2b C1.9 Zi C1.9 Z29 C1.9 Zbp C1.9 Z76 C1.7",
    "Z1 C2.9 Z29 C1.9 Zbt C2.9 Zd0s C1.9 Z1xc C5.1 Z1n C7.6e Zxl C2.6 Zf58 C1.1 Z43q C2.60 C3.1",
    "Z3 C1.6a C5.60 Z8 C8.64 Z2 C5.6e C2.64 Zu C4.6e Z44 C3.6e Z2pn C7.6e Z1 Ch.6e Z2 C7.6e Z1",
    "C2.6e Z1 C5.6e Z2s C1.6e Z4g C7.6e Zaf C1.6e Z1p C4.6e Ze4 C2.6g C1.64 C1.6e Z72 C1.6e C1.64",
    "Zkg C7.64 Z31 C6.6e C1.7 Zl705"]

def combiningClassRuns : Runs := Runs.ofLines combiningClassLines

def combiningClass (c : Char) : Nat :=
  match combiningClassRuns.find c.toNat with
  | some ⟨_, 'C', [_, value]⟩ => value
  | _ => 0

end Unicode
end SiteGuard
