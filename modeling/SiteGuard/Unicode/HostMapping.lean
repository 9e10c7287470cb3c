import SiteGuard.Unicode.Runs

/-!
# The host mapping table

How each character of a host name is treated before it is looked up, in the
format of `Runs`: `V` keeps the characters of a run, `I` drops them, `X` refuses
them, `U` and `L` add and subtract a fixed distance, `A` sends every second one,
from the first on, to its successor, `S` is one character and `R` a run of
characters that become the characters named.
-/

namespace SiteGuard
namespace Unicode

def hostMappingLines : List String :=
  [
    "V1t Uq.w V11 Xw Sw V7 Sw.lk V1 S2p V2 I1 V1 Sw.lg V2 L2.3k Sw.ld Sqk V2 Sw.mf S1d S33 V1",
    "S1d.6dg.1g S1d.6dg.1e S1f.6dg.1g V1 Un.w V1 U7.w Vx A1c S2x.lj V1 R2.2x.2y A4 V1 A6 R2.30.53",
    "A8 Sjg.32 A1a S73 A6 S37 V1 Sgj A4 Sgk Saw V1 U2.5p Sb0 V2 Sd9 Sgp Sgr Sb6 V1 Sgw Sgz V1 Sh5",
    "Sh4 Sbd V3 Shb She V1 Shh A6 Shs Sbs V1 Shv V2 Sbx V1 Si0 Sc0 V1 U2.61 A4 Sia Sc9 V3 Scd V7",
    "R3.2s.am R3.30.2y R3.32.2y Ag V1 Ai V1 R3.2s.3e Sdx V1 Sb9 Scf A14 Sbi V1 Ai V6 S8rp Sfw V1",
    "Sbe S8rq V2 Sg2 V1 Sao Si1 Si4 Aa V2o S2w Sh2 S2y S36 Shl Shn Sht S3b S3d Vv Sw.li Sw.lj",
    "Sw.lm Sw.mg Sw.lf Sw.ln V2 Sgz S30 S37 S3c Sid V2j L2.1s V1 Slv Slk.ld Sqh V9 I1 Vw A4 Sjd",
    "V1 Son V1 X2 Sw.qh V3 S1n Ss3 X4 Sw.ld Sw.lk.ld Sq4 S53 U3.11 X1 Sr0 X1 U2.1r V1 Uh.w X1",
    "U9.w Vz Srb Sqa Sqg Sqt Sr1 Sqz Squ Sqo V1 Ao Sqi Sqp Sqr V1 Sqg Sqd V1 Ss8 V1 Sqr Ssb V2",
    "L3.3m Ug.28 Uw.w V1c Ay V8 A1i Sy7 Ae V1 A2o X1 U12.1c X2 V1a S12d.136 V3 X2 V3 X1 V1j X8 Vr",
    "X4 V6 Xh Vm X1 V2g S17r.19w S18o.19w S1c7.19w S18q.19w V2s X1 V1c X2 V1n X2 V2t Xe V1n X2",
    "V1d X2 Vf X1 Vs X2 V1 X1 Vb X5 Vw X7 V23 X1 V39 S1sl.1to S1sm.1to S1sn.1to S1ss.1to S1sx.1to",
    "S1sy.1to S1t7.1to S1tb.1to V10 X1 V8 X2 V2 X2 Vm X1 V7 X1 V1 X3 V4 X2 V9 X2 V2 X2 V4 X8 V1",
    "X4 S1wh.1x8 S1wi.1x8 X1 S1wv.1x8 V4 X2 Vp X2 V3 X1 V6 X4 V2 X2 Vm X1 V7 X1 V1 S20i.20s X1 V1",
    "S20o.20s X1 V2 X2 V1 X1 V5 X4 V2 X2 V3 X3 V1 X7 S1zq.20s S1zr.20s S1zw.20s V1 X1 S20b.20s X7",
    "Vh Xa V3 X1 V9 X1 V3 X1 Vm X1 V7 X1 V2 X1 V5 X2 Va X1 V3 X1 V3 X2 V1 Xf V4 X2 Vc X7 V7 X1 V3",
    "X1 V8 X2 V2 X2 Vm X1 V7 X1 V2 X1 V5 X2 V9 X2 V2 X2 V3 X7 V3 X4 S275.27w S276.27w X1 V5 X2 Vi",
    "Xa V2 X1 V6 X3 V3 X1 V4 X3 V2 X1 V1 X1 V2 X3 V2 X3 V3 X3 Vc X4 V5 X3 V3 X1 V4 X2 V1 X6 V1 Xe",
    "Vl X5 Vd X1 V3 X1 Vn X1 Vg X2 V9 X1 V3 X1 V4 X7 V2 X1 V3 X1 V2 X2 V4 X2 Va X7 Vm X1 V3 X1 Vn",
    "X1 Va X1 V5 X2 V9 X1 V3 X1 V4 X7 V2 X5 V3 X1 V4 X2 Va X1 V3 Xc Vd X1 V3 X1 V1f X1 V3 X1 V6",
    "X4 Vg X2 Vq X1 V3 X1 Vi X3 Vo X1 V9 X1 V1 X2 V7 X3 V1 X4 V6 X1 V1 X1 V8 X6 Va X2 V3 Xc V1e",
    "S2tp.2sy V7 X4 Vt X11 V2 X1 V1 X1 V5 X1 Vo X1 V1 X1 Vc S2x9.2wi Va X2 V5 X1 V1 X1 V7 X1 Va",
    "X2 S2wb.2vt S2wb.2w1 V2 Xw Vc S2yz V1i S30i.33r V4 X1 V4 S30s.33r V4 S30x.33r V4 S312.33r V4",
    "S317.33r Vc S30g.33p V3 X4 V2 S31t.31u V1 S31t.31w S33m.328 S33m.31t.328 S33n.328",
    "S33n.31t.328 V7 S31t.328 Vh S32q.33r V4 X1 V4 S330.33r V4 S335.33r V4 S33a.33r V4 S33f.33r",
    "Vc S32o.33p V3 X1 Vf X1 Vd X11 V4g U12.5ls X1 S8x3 X5 S8x9 X2 V18 S3bw V2q I2 V6g X1 V4 X2",
    "V7 X1 V1 X1 V4 X2 V15 X1 V4 X2 Vx X1 V4 X2 V7 X1 V1 X1 V4 X2 Vf X1 V1l X1 V4 X2 V1v X2 Vw X3",
    "Vq X6 V2e X2 L6.8 X2 Vhs X1 Vs X3 V2h X7 Vm X9 Vo X9 Vk Xc Vd X1 V3 X1 V2 Xc V1g I2 V14 X2",
    "Va X6 Va X6 Vb I5 Va X6 V2h X7 V17 X5 V1y Xa Vv X1 Vc X4 Vc X4 V1 X3 V16 X2 V5 Xb V18 X4 Vq",
    "X6 Vb X3 V1q X2 V1t X1 Vt X2 Vb X6 Va X6 Ve X2 V1a X2 Vc Xk V25 X1 V4m X8 V1o X3 Vf X3 V1f",
    "Stu Stw Su6 L2.4si Sua Sui Sv7 Swuj S5my V1 X5 L17.2bk X2 L3.2bk V8 X8 V17 X5 V18 S2p S6e",
    "S2q V1 L2.5os Sd9 L8.5os V1 S33 Sf7 S34 S36 L2.5os S3b S2p L2.5bo S5qa S2q L2.5pg Sgp L2.5bk",
    "S2v V1 S2z S31 S97 S33 Sgk L2.1q S34 L2.5pf S5r1 Shb S3a S5r9 L3.52j L2.522 S2x S36 L2.5pr",
    "L2.52s Sqp L2.52b Vd Su5 Vy Sgi S2r Sgl S6o Sgs S2u Sgv Sgx Sh1 L3.5do S5tn Sil Sh9 S5tx Sin",
    "Shd Shc L4.5do Shk L2.5dd Sbv L2.5d9 S5r0 L2.5da S3e L3.5d8 Sqg V1s A46 V4 S2p.ji S601 V2",
    "S67 V1 A2o V8 L8.8 V6 X2 L6.8 X2 V8 L8.8 V8 L8.8 V6 X2 L6.8 X2 V8 X1 S66p X1 S66r X1 S66t X1",
    "S66v V8 L8.8 V1 Sq4 V1 Sq5 V1 Sq6 V1 Sq7 V1 Sr0 V1 Sr1 V1 Sr2 X2 S64g.qh S64h.qh S64i.qh",
    "S64j.qh S64k.qh S64l.qh S64m.qh S64n.qh S64g.qh S64h.qh S64i.qh S64j.qh S64k.qh S64l.qh",
    "S64m.qh S64n.qh S65c.qh S65d.qh S65e.qh S65f.qh S65g.qh S65h.qh S65i.qh S65j.qh S65c.qh",
    "S65d.qh S65e.qh S65f.qh S65g.qh S65h.qh S65i.qh S65j.qh S674.qh S675.qh S676.qh S677.qh",
    "S678.qh S679.qh S67a.qh S67b.qh S674.qh S675.qh S676.qh S677.qh S678.qh S679.qh S67a.qh",
    "S67b.qh V2 S67k.qh Sq9.qh Sq4.qh X1 V1 S69i.qh L2.8 S67k Sq4 Sq9.qh Sw.lv Sqh Sw.lv Sw.n6",
    "Sw.lk.n6 S67o.qh Sqf.qh Sq6.qh X1 V1 S69y.qh S67m Sq5 S67o Sq6 Sqf.qh Sw.lv.lc Sw.lv.ld",
    "Sw.lv.n6 V3 Spc X2 V2 L2.8 S67q Sq7 X1 Sw.lw.lc Sw.lw.ld Sw.lw.n6 V3 Sq8 V4 L2.8 S67u Sr1",
    "S6at Sw.lk.lc Sw.lk.ld S2o X2 S67w.qh Sqx.qh Sr2.qh X1 V1 S6ba.qh S67s Sr0 S67w Sr2 Sqx.qh",
    "Sw.ld Sw.lw X1 Rb.w I1 V2 X2 V1 S6c0 V5 Sw.mr Vc X3 V1 X7 Sw V3 S6cy.6cy S6cy.6cy.6cy V1",
    "S6d1.6d1 S6d1.6d1.6d1 V4 Sx.x V1 Sw.lh V8 S1r.1r S1r.x Sx.1r Vd S6cy.6cy.6cy.6cy V7 Sw I5 X5",
    "I6 S1c S2x X2 L6.6dc S17 S6qa S1p L2.6dx S32 La.6ds S17 S6qa S1p L2.6ed X1 S2p S2t S33 S3c",
    "Sgp S2w L4.6cr S34 L2.6co X3 V8 S36.37 Vp Xe Vx Xf S2p.1b.2r S2p.1b.37 S2r S4w.2r V1",
    "S2r.1b.33 S2r.1b.39 Sgr V1 S4w.2u L2.6g3 R3.2w S87 R2.2x R2.30 V1 S32 S32.33 V2 L3.6g9 R2.36",
    "V2 S37.31 S38.2t.30 S38.31 V1 S3e V1 Sqx V1 S3e V1 S2z S6d L2.6h6 V1 R2.2t S2u S6ku S31 S33",
    "L4.5et S2x V1 S2u.2p.3c Sqo R2.qb Sqo S6q9 V4 R2.2s S2t L2.6hr V6 S1d.6dg.1j S1d.6dg.1l",
    "S1d.6dg.1d.1c S1d.6dg.1f S1e.6dg.1f S1d.6dg.1h S1e.6dg.1h S1f.6dg.1h S1g.6dg.1h S1d.6dg.1i",
    "S1h.6dg.1i S1d.6dg.1k S1f.6dg.1k S1h.6dg.1k S1j.6dg.1k S1d.6dg S2x S2x.2x S2x.2x.2x S2x.3a",
    "S3a S3a.2x S3a.2x.2x S3a.2x.2x.2x S2x.3c S3c S3c.2x S3c.2x.2x S30 L2.6iy S31 S2x S2x.2x",
    "S2x.2x.2x S2x.3a S3a S3a.2x S3a.2x.2x S3a.2x.2x.2x S2x.3c S3c S3c.2x S3c.2x.2x S30 L2.6je",
    "S31 V3 S6mc V5 S1c.6dg.1f V2 X4 V4c S6qz.6qz S6qz.6qz.6qz V1 S6r2.6r2 S6r2.6r2.6r2 V6w",
    "U2.2jj V73 Xm Vb Xl L9.75b S1d.1c S1d.1d S1d.1e S1d.1f S1d.1g S1d.1h S1d.1i S1d.1j S1d.1k",
    "S1d.1l S1e.1c S14.1d.15 S14.1e.15 S14.1f.15 S14.1g.15 S14.1h.15 S14.1i.15 S14.1j.15",
    "S14.1k.15 S14.1l.15 S14.1d.1c.15 S14.1d.1d.15 S14.1d.1e.15 S14.1d.1f.15 S14.1d.1g.15",
    "S14.1d.1h.15 S14.1d.1i.15 S14.1d.1j.15 S14.1d.1k.15 S14.1d.1l.15 S14.1e.1c.15 Xk S14.2p.15",
    "S14.2q.15 S14.2r.15 S14.2s.15 S14.2t.15 S14.2u.15 S14.2v.15 S14.2w.15 S14.2x.15 S14.2y.15",
    "S14.2z.15 S14.30.15 S14.31.15 S14.32.15 S14.33.15 S14.34.15 S14.35.15 S14.36.15 S14.37.15",
    "S14.38.15 S14.39.15 S14.3a.15 S14.3b.15 S14.3c.15 S14.3d.15 S14.3e.15 Lq.76d Lq.773 S1c V10h",
    "S6qz.6qz.6qz.6qz V2v S1m.1m.1p S1p.1p S1p.1p.1p V2t S8gt.mw V47 X2 V3u U1c.1c V1c S8rl V1",
    "Sh7 S5tp Shp V2 A6 Sgh Shd Sgg Sgi V1 S8s3 V2 S8s6 V6 S2y S3a L2.8cf A2s V7 A4 V3 S8vn V1 X5",
    "V19 X1 V1 X5 V1 X2 V1k X7 S8yp V1 Xe Vo X9 V7 X1 V7 X1 V7 X1 V7 X1 V7 X1 V7 X1 V7 X1 V7 X1",
    "V3i Xy Vq X1 V4 Slal V2b Svj3 Xc Sfeo Sffs Sfg6 Sfgf Sfh5 Sfid Sfik Sfj4 Sfju Sg1r Sg2t Sg2z",
    "Sg3m Sg46 Sg4r Sg68 Sg6t Sg74 Sgbf Sge1 Sget Sgey Sgfs Sgg1 Sggs Sgh5 Sghu Sgja Sgjs Sgkj",
    "Sh5j Sh7j Shkb Shky Shl6 Shlh Shlz Sho3 Si1c Si2o Si60 Si6n Si76 Si7s Si9a Si9d Sijf Sijp",
    "Sik1 Sike Sinm Sinu Sinz Sir8 Siri Sirv Sis3 Sits Siu9 Siur Siwz Sjd4 Sjee Sjez Sjzj Sjzo",
    "Sk1z Sk2f Sk2s Sk3d Sk4g Sk4l Skc0 Skco Skdk Sl5s Sl7m Sl89 Sl9v Slaj Slas Slaz Slcf Slck",
    "Sldg Sm7f Smju Smk6 Smkb Smkf Smkn Sml5 Sml7 Smng Smtg Smtl Sn30 Sn3a Sn4o Sn4v Sn54 Sn5c",
    "Sn7v Sn82 Snee Snel Snfy Sngf Snhq Snob Snoi Snoz Sny2 So1k So1q So6s So97 Soah Sokz Sooo",
    "Sp4m Sp5d Sp6y Sp8d Spa9 Spak Spaq Spbn Spdr Spe1 Spnn Spnu Spo3 Spoc Spos Spp7 Sppb Spri",
    "Sprm Sprs Sqj1 Sqjv Sqww Sqx8 Sqxv Sr5q Sr63 Sr82 Sr9c Srp3 Srpi Srpx Srqw Srrx Srxg Srxs",
    "Srzn Ss6j Ss7e Ssd7 Ssds Ssdx Ssk1 Ssp5 Sssm Ssss Sssx Stiv Stj4 Stng Strq Strt Stt4 Stw1",
    "Stwe Stwi Stwp Stzf Su0d Su0j Su0x Su5k Su6z Su73 Suc6 Suc9 Sucs Sujs Sul4 Sulb Sun9 Sunj",
    "Sunm Sunw Suoq Suzp Svat Svb3 Svc5 Svcr Svcz Svd9 Svdd Sveh Svel Svf2 Svf7 Svfk Svgb Svgq",
    "Svgy Svil Svj0 Svj4 X16 Sw V1 S1a V1f S9hu V1 Sgg1 U2.6x7 V5 X1 V2e X2 V2 Sw.9ll Sw.9lm V2",
    "S9l4.9l6 V2n S9mb.9mw X5 V17 X1 L2.6cx S3hm S3cy L2.689 L3.6d0 L6.68a S3dm L3.6d7 S3dt",
    "La.6d8 Ll.6b2 I1 L2.6dt L2.68w S3ik S3im S3ir S3iv S3ix S3do S3j1 S3j3 L2.6dw S3ds L2.6du",
    "S3dz S3e1 L5.6dp S3ea S3ee S3eo S3ev S3f0 L2.68h L3.6ct L2.6bn S3go L2.6bd S3h0 S3ha S3hd X1",
    "V2 Sfeo Sfik Sfex Sh5n Sfey Sffx Sfez Sn5e Sfh5 Sffd Sfep Shm1 Sh80 Sfju V1y Xa Vg",
    "S14.3cw.15 S14.3cy.15 S14.3cz.15 S14.3d1.15 S14.3d2.15 S14.3d3.15 S14.3d5.15 S14.3d7.15",
    "S14.3d8.15 S14.3da.15 S14.3db.15 S14.3dc.15 S14.3dd.15 S14.3de.15 S14.xz4.15 S14.yvs.15",
    "S14.zc4.15 S14.108s.15 S14.10p4.15 S14.115g.15 S14.1224.15 S14.12ys.15 S14.13f4.15",
    "S14.14bs.15 S14.14s4.15 S14.158g.15 S14.15os.15 S14.1654.15 S14.13p8.15 S14.1350.13ic.15",
    "S14.1350.16f8.15 X1 S14.feo.15 S14.fik.15 S14.fex.15 S14.h5n.15 S14.fis.15 S14.g31.15",
    "S14.fer.15 S14.g2z.15 S14.fh9.15 S14.gg1.15 S14.kco.15 S14.m7f.15 S14.ldg.15 S14.kdk.15",
    "S14.ssx.15 S14.h7j.15 S14.k4l.15 S14.kkq.15 S14.kcp.15 S14.ny6.15 S14.glp.15 S14.mm1.15",
    "S14.rs1.15 S14.nz1.15 S14.gc4.15 S14.fkz.15 S14.gos.15 S14.i1y.15 S14.nhf.15 S14.flt.15",
    "S14.rt3.15 S14.ggk.15 S14.nzh.15 S14.fm9.15 S14.pnu.15 S14.po3.15 Sgun Sinw Sk1z Soen V8",
    "S34.38.2t S1e.1d S1e.1e S1e.1f S1e.1g S1e.1h S1e.1i S1e.1j S1e.1k S1e.1l S1f.1c S1f.1d",
    "S1f.1e S1f.1f S1f.1g S1f.1h S3cw L2.6lb L3.6la S3d5 L2.6l8 L5.6l7 Sxz4 Syvs Szc4 S108s S10p4",
    "S115g S1224 S12ys S13f4 S14bs S14s4 S158g S15os S1654 S14c8.y5c S13p8.13dk S138w V1 Sfeo",
    "Sfik Sfex Sh5n Sfis Sg31 Sfer Sg2z Sfh9 Sgg1 Skco Sm7f Sldg Skdk Sssx Sh7j Sk4l Skkq Skcp",
    "Sny6 Sglp Smm1 Srs1 Snz1 Sgc4 So2g Sn5j Sho3 Ssix Sg16 Sghc Slig Su11 Sfm9 Sg49 Sl7n Sfey",
    "Sffx Sfez Sijq Sgkz Sgfv Si3b Si1y Snhf Sflt Srt3 Sggk Shlo S1f.1i S1f.1j S1f.1k S1f.1l",
    "S1g.1c S1g.1d S1g.1e S1g.1f S1g.1g S1g.1h S1g.1i S1g.1j S1g.1k S1g.1l S1h.1c S1d.kco S1e.kco",
    "S1f.kco S1g.kco S1h.kco S1i.kco S1j.kco S1k.kco S1l.kco S1d.1c.kco S1d.1d.kco S1d.1e.kco",
    "S2w.2v S2t.36.2v S2t.3a S30.38.2s S9lu S9lw S9ly S9m0 L2.fe S9m5 S9m7 S9m9 S9mb S9md S9mf",
    "S9mh S9mj S9ml S9mn S9mp S9ms S9mu S9mw L6.ey S9n6 S9n9 S9nc S9nf L5.eo S9no S9nq L6.el",
    "L4.ek Sfl0.gp8 S9lu.9n5.9oc.9mw S9lu.9nv.9n9.9lt S9lu.9o3.9ne.9lu S9lu.9oc.9nv",
    "S9lw.9mz.9o3.9m8 S9lw.9o3.9mp S9ly.9m1.9o3 S9m0.9mh.9m7.9oc.9mx S9m0.9oc.9m3.9oc",
    "S9m2.9o3.9mh S9m2.9oc.9nk S9m3.9lw.9nu S9m3.9nt.9mr.9mw S9m3.9nx.9nu.9oc S9m4.9nx.9o3",
    "S9m4.9o3.9ni S9m6.9m4 S9m6.9mz.9oc S9m5.9np.9nu.9oc S9m6.9nv.9mo.9oc S9m5.9nx",
    "S9m5.9nx.9m8.9nt.9nk S9m5.9nx.9nl.9oc.9mw.9nv S9m5.9nx.9nz.9mr.9mw S9m8.9nt.9nk",
    "S9m8.9nt.9nk.9mw.9o3 S9m7.9nv.9mk.9lw.9nx S9m7.9nx.9oc.9n1 S9m9.9oc.9mh S9mb.9nv.9my",
    "S9mb.9oc.9nh S9md.9lw.9m7.9nv S9md.9o3.9mp.9oc.9nk S9mf.9nu.9o3.9m8 S9mj.9o3.9mp",
    "S9mj.9o3.9mw S9mo.9oc.9mh S9mv.9mf S9mx.9nv S9mw.9o3 S9my.9n2 S9n2.9mr.9mw S9n3.9lw.9ms",
    "S9n5.9oc.9mj.9o3.9mw S9n5.9oc.9ms S9n4.9oc.9nw.9nv S9n8.9lu.9mh.9mw.9nv S9n8.9m7.9nv",
    "S9n8.9mb S9n7.9nv S9n9.9lt.9nt.9mr.9mx S9n9.9lv.9oc.9mw S9na.9mr.9mf.9lz.9nv S9n9.9nt.9o3",
    "S9nc.9m7.9mn.9oc.9nv S9ne.9ml S9ne.9mz.9n6 S9nc.9nv.9ms S9ne.9o3.9mh S9ne.9oc.9mg",
    "S9nd.9oc.9mn S9nh.9lw.9o3.9mw S9ng.9nv.9mw S9nf.9o3 S9nh.9o3.9mx S9nf.9oc.9nv S9nf.9oc.9o3",
    "S9ni.9lw.9m7.9nx S9ni.9lw.9nv S9ni.9mr.9n3 S9ni.9nv.9m7 S9ni.9o3.9mf.9nr.9o3",
    "S9nj.9m7.9nx.9o3 S9nj.9nu S9nj.9nu.9n4.9oc.9nv S9nl.9m4 S9nl.9m4.9mw.9o3 S9nl.9oc.9mw.9nv",
    "S9no.9oc.9mx S9no.9oc.9nv S9nq.9lu.9o3 S9nu.9mr.9mw.9nv S9nu.9nt S9nv.9n8.9oc",
    "S9nv.9oc.9na.9nv S9nw.9nk S9nw.9o3.9mw.9ma.9o3 S9nz.9mr.9mw S1c.m9l S1d.m9l S1e.m9l S1f.m9l",
    "S1g.m9l S1h.m9l S1i.m9l S1j.m9l S1k.m9l S1l.m9l S1d.1c.m9l S1d.1d.m9l S1d.1e.m9l S1d.1f.m9l",
    "S1d.1g.m9l S1d.1h.m9l S1d.1i.m9l S1d.1j.m9l S1d.1k.m9l S1d.1l.m9l S1e.1c.m9l S1e.1d.m9l",
    "S1e.1e.m9l S1e.1f.m9l S1e.1g.m9l S2w.34.2p S2s.2p S2p.39 S2q.2p.36 S33.3a S34.2r S2s.31",
    "S2s.31.1e S2s.31.1f S2x.39 Sinn.jdc Sk6l.gp8 Shlz.l7n Sk5q.lh7 Skkq.irz.fmi.ny6 S34.2p",
    "S32.2p Sqk.2p S31.2p S2z.2p S2z.2q S31.2q S2v.2q S2r.2p.30 S2z.2r.2p.30 S34.2u S32.2u Sqk.2u",
    "Sqk.2v S31.2v S2z.2v S2w.3e S2z.2w.3e S31.2w.3e S2v.2w.3e S38.2w.3e Sqk.30 S31.30 S2s.30",
    "S2z.30 S2u.31 S32.31 Sqk.31 S31.31 S2r.31 S2z.31 S31.31.1e S2r.31.1e S31.1e S2z.31.1e",
    "S31.31.1f S2r.31.1f S31.1f S2z.31.1f S31.6qd.37 S31.6qd.37.1e S34.2p S2z.34.2p S31.34.2p",
    "S2v.34.2p S36.2p.2s S36.2p.2s.6qd.37 S36.2p.2s.6qd.37.1e S34.37 S32.37 Sqk.37 S31.37 S34.3a",
    "S32.3a Sqk.3a S31.3a S2z.3a S31.3a S34.3b S32.3b Sqk.3b S31.3b S2z.3b S31.3b S2z.qx S31.qx",
    "X1 S2q.35 S2r.2r S2r.2s S2r.6qd.2z.2v X1 S2s.2q S2v.3d S2w.2p S2w.34 S2x.32 S2z.2z S2z.31",
    "S2z.38 S30.31 S30.32 S30.33.2v S30.3c S31.2q S31.2x.30 S31.33.30 S34.2w X1 S34.34.31 S34.36",
    "S37.36 S37.3a S3b.2q S3a.6qd.31 S2p.6qd.31 S1d.k4l S1e.k4l S1f.k4l S1g.k4l S1h.k4l S1i.k4l",
    "S1j.k4l S1k.k4l S1l.k4l S1d.1c.k4l S1d.1d.k4l S1d.1e.k4l S1d.1f.k4l S1d.1g.k4l S1d.1h.k4l",
    "S1d.1i.k4l S1d.1j.k4l S1d.1k.k4l S1d.1l.k4l S1e.1c.k4l S1e.1d.k4l S1e.1e.k4l S1e.1f.k4l",
    "S1e.1g.k4l S1e.1h.k4l S1e.1i.k4l S1e.1j.k4l S1e.1k.k4l S1e.1l.k4l S1f.1c.k4l S1f.1d.k4l",
    "S2v.2p.30 Vm8d X3 V1j X9 V9o Xk A1a Vi As Sui Suk V2i X8 Vy Ae V2 A1q Sx2n V8 A4 S5tl Aa V3",
    "Sx3g V1 Sh1 V2 A4 V2 Ak Sh2 Sgs Sgx Sh8 Sh6 V1 Sim Shz Sil Sxub Ag Sx3o Shu S5u6 A4 Sh0 Ag",
    "Sbf Xk S37 S2r S2u S35 Sx6e V2 S87 S9f V1f X3 Va X6 V1k X8 V1y X8 Vc X6 V38 Xb Vu X3 V26 X1",
    "Vb X4 Vx X1 V1j X9 Ve X2 Va X2 V2v Xo Vs Xa V6 X2 V6 X2 V6 X9 V7 X1 V7 X1 V18 Sx0n Sxtj Sh7",
    "Sxua V9 Si5 V2 X4 L28.tzk V1a X2 Va X6 V8mc Xc Vn X4 V1d X6is Srpk Skc4 Ss7e Srt4 Slw1 Sfg2",
    "Sgkl R2.vj0 Shn5 Sssx Sgw7 Shmw Sjcm Sne1 Sp6t Sqin Sqt6 Sr20 Ssjz Skxu Sljv Smah Smvy Sq4d",
    "Ssq2 Suep Sfia Sghh Sl50 Smjf Sqi5 Sv8e Sifk Sm3v Sqfh Sr50 Sjih Spnc Sqvz Siq2 Skd3 Slm2",
    "Smpo Sslq Sfpi Sg53 Sgda Sjwk Sl3n Smj4 Snhj Spa9 Sqh2 Sqjg Ss1b Stv6 Supb Sv7e Snt8 Snzz",
    "Sotc Sq15 St1g Svb3 Srfa Shjz Siro Sokg Spdq Smle Snuy Srsy Sttj Shjs Si8y Skyb Slp6 Slxr",
    "Soq7 Soxj Stor Sgcy Spe3 Sg64 Sg5o So4c Sou6 Sq29 Stpx Srk0 Sjin Skxu Srge Sfg9 Si5j Siz6",
    "Smtj Sn74 Sgev Snwb Sfr3 Siw9 Sff1 Slho Sk1k Sopu Sgjn Shge Sni9 Sq4p Sre2 Sla2 Ssds Slfs",
    "Sjjy Sput Sjog Sn6t Sfji Sg2x Sg5l Skn5 Soo7 Sprj Srf6 Sssv Sgdx Sgn6 Sho3 Sir0 Sk3p Sm4e",
    "Snxm Stkd Sui2 Svbr Svda Sgbf Skau Sl87 Ssbm Sino Sj9s Sjcw Sjve Slyb Smdl Sn0p So22 Sovo",
    "Spdb Ss9y Sq9a Ssgz St3e Sg7r Sgbn Sgql Sma0 Sr0i Sre2 Siq1 Siyd Sjnf Sl9q Soji Smt1 Sfl0",
    "Sh6h Si5j Siii Sizg Smuq Smzt Sp7e Spc6 Ssvo Stti Stvs Su1k Sfpn So1a Sss4 Strs Sj4x Sfie",
    "Sfyy Si5q Si7z Sk2h Skxu Smha Sncy Sq9o Ssjg Svil Sk94 Stny Sgax Skfv Skj7 Slkx Sluk Smx5",
    "Sn6h Snsb Sopc Su3i Sg31 Sje6 Stq0 Sfu3 Sie1 Slpm Ssa2 Sivf Sj7o Skk7 Smtj Stqe Sg89 Sglr",
    "Si91 Sk5v Skem Sko8 Slid Smx2 Snaa Sp6h Sr0v Sr1d Ssss Stsy Sgfz Slve Sgm5 Smhc Sn14 Sqgq",
    "Str7 Suvr Svbz Skgn Slor Spns So97 Sobk Solu Smo0 Sm8p Sriw Sfk0 Spx2 Sg8q Sg7b Sip2 Sjir",
    "Sonq Si2t Sljy Skac Ssaj Sqx8 Stot Sr63 Siqb Sg1s Sgxs V2 Shga V1 Sk8k V2 Sg66 Smqy Sngq",
    "Sny4 Snz2 Snz9 So0f Stw6 Son2 Sp8d V1 Sqhe V1 Srg8 V2 Sshk Ssn1 V3 Su7j Su7w Su94 Sv5g Ssm6",
    "Strr Sfqm Sfzb Sg25 Sgcp Sgdg Sggh Sgwt Sgzq Sh2g Shfk Shig Si90 Si9a Sj2s Sj8o Sj9q Sjci",
    "Sk0f Sk4i Sk9d Skn9 Slmf Slqy Slya Smem Smjv Smxu Sntd Sny6 Snyh Snyg Snyo Snyu Snz1 L2.pfp",
    "So5c So75 Sog0 Sovo Sow9 Soxt Sp6a Spad Spnx R2.prt Sq53 Sr2o Sr6e Srgh Sri1 Srtf Sruw Ssdy",
    "Sshk Stsz Su0v Su2j Sj1x S36cu Spp4 X2 Sffq Sg51 Sg2w Sfpc Sg1x Sg3k Sgcn Sge2 Sgwt Sgut",
    "Sgwp Sgyq Shga Shir Shms Shn8 Shuq Si08 Siqa Siqh Siuh Siwd Sj4o Sj7y Sj60 Sj9q Sj8g Sjci",
    "Sjec Sjpg Sjrw Sjte Sk0m Sk8k Skd3 Skd7 Skeu Sl89 Sla2 Slkx Slwb Slvv Slya Sm5a Smem Snmv",
    "Smk5 Smnj Smqy Sn01 Sn46 Sn5n Snbx Snbz Sngq Snh7 Snhw Snka Snk0 Snv0 So8h Sog0 Sol7 Sorf",
    "Sovo Sp4u Spad Spxu Sq27 Sqrd Sr41 Sr5y Sr6e Sren Srg8 Srez Srgh Srge Srfx Sri1 Srka Sruw",
    "Ssag Ssj6 Ssrd Ssxi Stq4 Stsz Stw6 Stzv Su0v Su17 Su2j Sumq Svj0 S313e S3138 S33dh Sbrx Scns",
    "Scop S39e1 S3bgw S3i6r Svgj Svim X12 S2u.2u S2u.2x S2u.30 S2u.2u.2x S2u.2u.30 R2.37.38 Xc",
    "S12s.12u S12s.12d S12s.12j S132.12u S12s.12l X5 S15l.14k V1 S16a.14n S15u S15c L2.1cgf",
    "L3.1cg9 S160 S162 S17 S161.14x S161.14y S161.14s.14x S161.14s.14y S15c.14n S15c.14o S15c.14s",
    "S15d.14s S15e.14s S15f.14s S15g.14s S15h.14s S15i.14s X1 S15k.14s S15l.14s S15m.14s S15n.14s",
    "S15o.14s X1 S15q.14s X1 S15s.14s S15t.14s X1 S15v.14s S15w.14s X1 S15y.14s S15z.14s S160.14s",
    "S161.14s S162.14s S15h.14p S15d.14v S15n.14v S15w.14v S15c.15o R2.19t R4.1a3 R4.1a6 R4.1a8",
    "R4.1a2 R4.1a7 R4.1a1 R4.1b8 R4.1ba R4.1ac R4.1ab R4.1ae R4.1af R2.1al R2.1ak R2.1am R2.1ag",
    "R2.1aw R2.1ap R4.1bd R4.1bj R4.1bn R4.1bl R2.1bu R4.1bv R2.1c0 R4.1c1 R4.1by R2.1ci R2.1cj",
    "Vx R4.1bh R2.1c7 R2.1c6 R2.1c8 S1c7.19w R2.1cb R2.1c5 R2.1c9 R4.1cg R2.18p R2.17q.17r",
    "R2.17q.1cl R2.17q.18o R2.17q.1c7 R2.17q.1c6 R2.17q.1c8 R3.17q.1cg R3.17q.18p R4.1cc S17q.17w",
    "S17q.17x S17q.18l S17q.18p S17q.18q S17s.17w S17s.17x S17s.17y S17s.18l S17s.18p S17s.18q",
    "S17u.17w S17u.17x S17u.17y S17u.18l S17u.18p S17u.18q S17v.17w S17v.18l S17v.18p S17v.18q",
    "S17w.17x S17w.18l S17x.17w S17x.18l S17y.17w S17y.17x S17y.18l S183.17w S183.17x S183.17y",
    "S183.18l S185.17x S185.18l S186.17w S186.17x S186.17y S186.18l S187.17x S187.18l S188.18l",
    "S189.17w S189.18l S18a.17w S18a.18l S18h.17w S18h.17x S18h.17y S18h.18l S18h.18p S18h.18q",
    "S18i.17x S18i.18l S18i.18p S18i.18q S18j.17r S18j.17w S18j.17x S18j.17y S18j.18k S18j.18l",
    "S18j.18p S18j.18q S18k.17w S18k.17x S18k.17y S18k.18l S18k.18p S18k.18q S18l.17w S18l.17x",
    "S18l.17y S18l.18l S18l.18p S18l.18q S18m.17w S18m.17x S18m.17y S18m.18l S18m.18p S18m.18q",
    "S18n.17w S18n.18l S18n.18p S18n.18q S18q.17w S18q.17x S18q.17y S18q.18l S18q.18p S18q.18q",
    "S180.19s S181.19s S18p.19s Sw.18s.18x Sw.18t.18x Sw.18u.18x Sw.18v.18x Sw.18w.18x Sw.18x.19s",
    "S17q.181 S17q.182 S17q.18l S17q.18m S17q.18p S17q.18q S17s.181 S17s.182 S17s.18l S17s.18m",
    "S17s.18p S17s.18q S17u.181 S17u.182 S17u.18l S17u.18m S17u.18p S17u.18q S17v.181 S17v.182",
    "S17v.18l S17v.18m S17v.18p S17v.18q S18h.18p S18h.18q S18i.18p S18i.18q S18j.17r S18j.18k",
    "S18j.18l S18j.18p S18j.18q S18k.18l S18k.18p S18k.18q S18l.17r S18l.18l S18m.181 S18m.182",
    "S18m.18l S18m.18m S18m.18p S18m.18q S18p.19s S18q.181 S18q.182 S18q.18l S18q.18m S18q.18p",
    "S18q.18q S17q.17w S17q.17x S17q.17y S17q.18l S17q.18n S17s.17w S17s.17x S17s.17y S17s.18l",
    "S17s.18n S17u.17w S17u.17x S17u.17y S17u.18l S17u.18n S17v.18l S17w.17x S17w.18l S17x.17w",
    "S17x.18l S17y.17w S17y.18l S183.17w S183.17x S183.17y S183.18l S185.17x S185.17y S185.18l",
    "S186.17w S186.17x S186.17y S186.18l S187.17x S188.18l S189.17w S189.18l S18a.17w S18a.18l",
    "S18h.17w S18h.17x S18h.17y S18h.18l S18i.17x S18i.18l S18j.17w S18j.17x S18j.17y S18j.18k",
    "S18j.18l S18k.17w S18k.17x S18k.17y S18k.18l S18k.18n S18l.17w S18l.17x S18l.17y S18l.18l",
    "S18m.17w S18m.17x S18m.17y S18m.18l S18m.18n S18n.17w S18n.18l S18n.19s S18q.17w S18q.17x",
    "S18q.17y S18q.18l S18q.18n S17q.18l S17q.18n S17s.18l S17s.18n S17u.18l S17u.18n S17v.18l",
    "S17v.18n S183.18l S183.18n S184.18l S184.18n S18j.18k S18j.18l S18k.18l S18m.18l S18m.18n",
    "S18q.18l S18q.18n S18g.18u.18x S18g.18v.18x S18g.18w.18x S187.18p S187.18q S189.18p S189.18q",
    "S18a.18p S18a.18q S183.18p S183.18q S184.18p S184.18q S17x.18p S17x.18q S17w.18p S17w.18q",
    "S17y.18p S17y.18q S185.18p S185.18q S186.18p S186.18q S184.17w S184.17x S184.17y S184.18l",
    "S184.181 S183.181 S185.181 S186.181 S187.18p S187.18q S189.18p S189.18q S18a.18p S18a.18q",
    "S183.18p S183.18q S184.18p S184.18q S17x.18p S17x.18q S17w.18p S17w.18q S17y.18p S17y.18q",
    "S185.18p S185.18q S186.18p S186.18q S184.17w S184.17x S184.17y S184.18l S184.181 S183.181",
    "S185.181 S186.181 S184.17w S184.17x S184.17y S184.18l S183.18n S184.18n S187.18l S183.17w",
    "S183.17x S183.17y S184.17w S184.17x S184.17y S187.18l S188.18l R2.17r.18r Vi S17u.17w.18l",
    "R2.17u.17x.17w S17u.17x.18l S17u.17y.18l S17u.18l.17w S17u.18l.17x S17u.18l.17y",
    "R2.17w.18l.17x S17x.18l.18q S17x.18l.18p S183.17x.17w S183.17w.17x S183.17w.18p",
    "R2.183.18l.17x S183.18l.17w R2.183.18l.18l R2.185.17x.17x S185.18l.18l R2.184.17x.18l",
    "S184.17w.18q R2.184.18l.17y R2.184.18l.18l S186.17x.18p R2.186.17y.18l R2.187.18l.17x",
    "S187.18l.18l S187.18l.18q S189.17w.18l R2.189.18l.18l S189.18l.18p S18a.18l.18l S18a.18l.18q",
    "S18a.18l.18p R2.18h.17y.18l S18i.18l.17x S18i.18l.18l S18k.17x.18l S18k.17x.18q S18k.17x.18p",
    "R2.18k.17w.17w R2.18k.17y.18l R2.18k.18l.17x S18l.17x.17w S18l.17x.18l S18l.17x.18q",
    "S18l.17w.17x S18l.17w.18l S18l.17y.17w S18l.17y.18l V2 S18l.17w.17y S18n.18l.17w",
    "S18n.18l.18l S18m.17x.18l S18m.17x.18p R2.18m.17w.18l S18m.17w.18p S18m.18l.18q S18m.18l.18p",
    "R2.18q.18l.18l S17s.17y.18q S17u.17w.18q S17u.17w.18p S17u.17y.18q S17u.17y.18p S17u.18l.18q",
    "S17u.18l.18p S17w.18l.18q S17w.17x.18p S17w.18l.18p S183.17y.18p S185.17x.18q S184.17x.18q",
    "S186.17x.18q S18k.17w.18q S18k.18l.18q S18q.17x.18q S18q.17w.18q S18q.18l.18q S18l.18l.18q",
    "S18i.18l.18q S18m.17x.18q S18i.18l.17x S18k.17x.18l S189.18l.18q S18j.18l.18q S18m.17w.17x",
    "S18l.17y.18q S18k.17w.18l S18j.18l.18l S18k.17w.18l S18m.17w.17x S17w.17x.18q S17x.17w.18q",
    "S18l.17w.18q S18h.18l.18q S17s.17x.18q S18j.18l.18l S189.17w.18l S185.18l.18l S183.17y.18q",
    "S18m.17w.18q V8 Xw S185.18k.1ci S18i.18k.1ci S17r.18k.18k.18n S17r.18j.17s.181",
    "S18l.17x.18l.17z S185.18k.189.18l S181.183.18o.18k S189.18k.18q.18n S18o.183.18k.18l",
    "S185.18k.18p S185.18k.18p.w.17r.18k.18k.18n.w.189.18k.18q.18n.w.18o.183.18k.18l",
    "S17w.18k.w.17w.18k.17r.18k.18n S181.1cc.17r.18k V3 Ig S18 S9hd X1 L2.1e55 Sx S1r L2.14ox X7",
    "Vg X1 S6c4 S6c3 R2.2n L2.1e6l S3f S3h L2.14px L2.14q3 L2.14qb L2.14qf L4.14qd V2 S2j S2l",
    "R4.w.lh R3.2n S18 S9hd X2 S1n S1m S1r Sx S6c4 L2.1e7l S3f S3h L2.14qx Sz S12 L2.1e7r S19 S1o",
    "S1q S1p X1 S2k L2.1e85 S1s X4 Sw.18r S18g.18r Sw.18s V1 Sw.18t X1 Sw.18u S18g.18u Sw.18v",
    "S18g.18v Sw.18w S18g.18w Sw.18x S18g.18x Sw.18y S18g.18y L2.1d27 L2.1d28 L2.1d29 L2.1d2a",
    "L2.1d2b R3.17q R2.17r R4.17s R2.17t R4.17u R4.17v R4.17w R4.17x R4.17y R2.17z R2.180 R2.181",
    "R2.182 R4.183 R4.184 R4.185 R4.186 R4.187 R4.188 R4.189 R4.18a R4.18h R4.18i R4.18j R4.18k",
    "R4.18l R4.18m R4.18n R2.18o R2.18p R4.18q R2.18k.17m R2.18k.17n R2.18k.17p R2.18k.17r X2 I1",
    "X1 Lw.1ecg Lq.1ebk L10.1ecg L2.168q S1a L2.14ye S9hd S9ob S9o2 S9lt S9lv S9lx S9lz S9m1 S9nn",
    "S9np S9nr S9mr S9oc S9lu S9lw S9ly S9m0 L2.14uj S9m5 S9m7 S9m9 S9mb S9md S9mf S9mh S9mj S9ml",
    "S9mn S9mp S9ms S9mu S9mw L6.14u3 S9n6 S9n9 S9nc S9nf L5.14tt S9no S9nq L6.14tq S9nz S9o3",
    "L2.14w5 I1 L2.1b4x S3hm S3cy L2.1b09 L3.1b50 L6.1b0a S3dm L3.1b57 S3dt La.1b58 X3 L6.1b35 X2",
    "L6.1b37 X2 L6.1b39 X2 L3.1b3b X3 L2.1ef2 S4s Sw.lg S4m S4l S6g9 X1 S7b6 L4.17x5 S7fk S7gr Xh",
    "Vc X1 Vq X1 Vj X1 V2 X1 Vf X2 Ve Xy V3f X5 V3 X4 V19 X3 V2g X1 Vd X3 V1 X1b V1a X3m Vt X3",
    "V1d Xf Vs X4 V10 X9 Vu X5 V17 X5 Vu X1 V11 X4 Ve X16 U14.14 V3a X2 Va X6 U10.14 X4 V10 X4",
    "V14 X8 V1g Xb V1 Ub.13 X1 Uf.13 X1 U7.13 X1 U2.13 X1 Vb X1 Vf X1 V7 X1 V2 X3 V1g Xc V8n X9",
    "Vm Xa V8 Xo V1 L2.1fht S6e Sih Sgj X1 Sir Sxuu Sit Sis L2.1flh S5u9 Sgo Sgu Six Sh0 Sgy Sgw",
    "Sij S87 Sik Sh3 Shw L2.1fjj Sh8 S2mmc Sx3i Sha S2mmd Si6 S2mme S6w L2.1fl9 S35 Shm S2mmg",
    "L2.1fl7 Shs Siw Siu Sxuv Siv Si0 S8s1 X1 Si7 L2.1fki Sig L3.1fqu S2mmi S2mn2 X1x V6 X2 V1 X1",
    "V18 X1 V2 X3 V1 X2 Vn X1 V20 X8 V9 X1c Vj X1 V2 X5 Vx X3 Vr X5 Vr X12 V1k X4 Vk X2 V1e X1 V2",
    "X5 V8 X1 V3 X1 Vt X2 V3 X4 Va X7 V9 X7 V1s Xw V13 X4 Vc X9 V1i X3 Vt X2 Vr X5 Vq X7 V4 Xc V7",
    "X28 V21 X1j U1f.1s Xd V1f X7 V1a X8 Va X6 Vg Um.w X3 Vt X8 V2 X5s Vv X1 V16 X1 V3 X2 V2 Xg",
    "V6 X8 V9 Xx V1a X8 V16 Xm Vq X12 Vs Xk Vn X9 V26 X4 V10 X9 V1q X1 V5 Xd Vp X7 Va X6 V1h X1",
    "Vi X8 V13 X9 V2o X1 Vk Xb Vi X1 V1b X1q V7 X1 V1 X1 V4 X1 Vf X1 Vb X6 V1n X5 Va X6 V4 X1 V8",
    "X2 V2 X2 Vm X1 V7 X1 V2 X1 V5 X1 Va X2 V2 X2 V3 X2 V1 X6 V1 X5 V7 X2 V7 X3 V5 Xb Va X1 V1 X2",
    "V1 X1 V12 X1 Va X1 V1 X2 V1 X1 V4 X1 Va X1 V2 X8 V2 Xt V2k X1 V5 Xu V20 X8 Va X4m V1i X2 V12",
    "Xy V1x Xb Va X6 Vd Xj V1m X6 Va X6 Vk Xs Vr X2 Vf X4 Vn X55 V1o X2s Uw.w V1f Xc V8 X2 V1 X2",
    "V8 X1 V2 X1 Vu X1 V2 X2 Vc X9 Va X1y V8 X2 V1a X2 Vb Xr V20 X8 V2b Xd V21 X7 Va X2e V8 X2g",
    "Vy Xe Va X6 V9 X1 V19 X1 Ve Xa Vt X3 Vw X2 Vm X1 Ve X21 V7 X1 V2 X1 V18 X3 V1 X1 V2 X1 V9 X8",
    "Va X6 V6 X1 V2 X1 V11 X1 V2 X1 V6 X7 Va X6 V18 X4 Va X6u Vp X7 Vh X1 V15 X3 Vt X2d V1 Xf V1e",
    "Xd Vpn X2u V33 X1 V5 Xb V5g X218 V2r Xd Vts Xg Vm Xa V32z X5 Vg7 X5a1 V1m X1c6 Vft X7 Vv X1",
    "Va X4 V29 X1 Va X6 Vu X2 V6 Xa V1y Xa Va X1 V7 X1 Vl X5 Vj Xc0 V1m X5i Uw.w V1n X5 Up.r X2",
    "Vp X18 V23 X4 V1l X7 Vh X1s V5 Xb V7 X9 V5p2 X15 Vw X2p V37 X6pp V4 X1 V7 X1 V2 X1 V83 Xf V1",
    "Xt V3 X2 V1 Xe V4 X8 Vb0 X1s4 V2z X5 Vd X3 V9 X7 Va X2 V4 I4 X318 V5y Lq.2iyd La.2j0g V3 X3",
    "Vc4 X6 Vn Xf Vh Xf V1a X2 Vn X9 V38 X1o V6u Xa V13 X2 V1h S2jx3.2jxh S2jx4.2jxh",
    "S2jx4.2jxh.2jxq S2jx4.2jxh.2jxr S2jx4.2jxh.2jxs S2jx4.2jxh.2jxt S2jx4.2jxh.2jxu Ve I8 V1s",
    "S2jzt.2jxh S2jzu.2jxh S2jzt.2jxh.2jxq S2jzu.2jxh.2jxq S2jzt.2jxh.2jxr S2jzu.2jxh.2jxr V16 Xl",
    "V1y X3e Vk Xc Vk Xc V2f X9 Vp X3r Lq.2kdb Lq.2ke1 Lq.2ker L7.2kfh X1 Li.2kfh Lq.2kg7 Lq.2kgx",
    "S2p X1 L2.2khn X2 S2v X2 L2.2khn X2 L4.2khn X1 L8.2khn L4.2kid X1 S2u X1 L7.2kid X1 Lb.2kid",
    "Lq.2kj3 Lq.2kjt L2.2kkj X1 L4.2kkj X2 L8.2kkj X1 L7.2kkj X1 Lq.2kl9 L2.2klz X1 L4.2klz X1",
    "L5.2klz X1 S33 X3 L7.2klz X1 Lq.2kmp Lq.2knf Lq.2ko5 Lq.2kov Lq.2kpl Lq.2kqb Lq.2kr1 Lq.2krr",
    "Lq.2ksh Lq.2kt7 Lq.2ktx Lq.2kun Lq.2kvd S8h Sfr X2 Lh.2k8n Sqg L7.2k8n S6pz Lh.2k9d R2.qr",
    "L6.2k9d S6pu Sqd Sqg Sqi Squ Sqp Sqo Lh.2ka9 Sqg L7.2ka9 S6pz Lh.2kaz R2.qr L6.2kaz S6pu Sqd",
    "Sqg Sqi Squ Sqp Sqo Lh.2kbv Sqg L7.2kbv S6pz Lh.2kcl R2.qr L6.2kcl S6pu Sqd Sqg Sqi Squ Sqp",
    "Sqo Lh.2kdh Sqg L7.2kdh S6pz Lh.2ke7 R2.qr L6.2ke7 S6pu Sqd Sqg Sqi Squ Sqp Sqo Lh.2kf3 Sqg",
    "L7.2kf3 S6pz Lh.2kft R2.qr L6.2kft S6pu Sqd Sqg Sqi Squ Sqp Sqo R2.rh X2 La.2l5q La.2l60",
    "La.2l6a La.2l6k La.2l6u Vi4 Xf V5 X1 Vf Xuo Vv X6 V6 X5x V7 X1 Vh X2 V7 X1 V2 X1 V5 X5",
    "L9.2m0w L3.2m0v Lb.2m0u Suj L2.2m0r Sww9 Syh Suu Suw Syx Sxb Sy7 L9.2m1t L2.2m1s L2.2m1q Su9",
    "L6.2m1o L2.2m1n Swh Suu Sut Sv3 Sx7 Swup Sxd Xx V1 X34 V19 X3 Ve X2 Va X4 V2 X8w Vv Xh V1m",
    "X5 V1 Xcw V16 X5y V17 X4 V1 X5c Vv X1 Vm X8 V2 X68 V7 X1 V4 X1 V2 X1 Vf X1 V5h X2 Vg X15",
    "Uy.y V16 X4 Va X4 V2 Xlt V1w X24 V1p X5e L2.2od5 S17w S17z X1 S18o S182 S17x S187 S18q",
    "L4.2ocn S183 S189 S18h S185 S18i S181 S184 L2.2odn S17y S180 S186 S188 S18a S19q S1bu S1b5",
    "S19r X1 S17s S17w X1 S18n X2 S17x X1 S18q L4.2odj S183 S189 S18h S185 S18i X1 S184 L2.2oej",
    "S17y X1 S186 X1 S18a X6 S17w X4 S17x X1 S18q X1 S18k X1 S18m S183 S189 X1 S185 S18i X1 S184",
    "X2 S17y X1 S186 X1 S18a X1 S1bu X1 S19r X1 S17s S17w X1 S18n X2 S17x S187 S18q S18j X1",
    "L2.2ofb S183 S189 S18h S185 S18i X1 S184 L2.2ogb S17y X1 S186 S188 S18a S19q X1 S1b5 X1",
    "L2.2ogp S17w S17z L2.2ofx S182 S17x S187 S18q X1 L3.2og7 S183 S189 S18h S185 S18i S181 S184",
    "L2.2oh7 S17y S180 S186 S188 S18a X5 S17s S17w S17z X1 S18o S182 S17x S187 S18q X1 L3.2oh3",
    "S183 S189 S18h S185 S18i S181 S184 L2.2oi3 S17y S180 S186 S188 S18a X1g V2 X7i V18 X4 V2s Xc",
    "Vf X2 Vf X1 Vf X1 V11 Xb S1c.18 S1d.18 S1e.18 S1f.18 S1g.18 S1h.18 S1i.18 S1j.18 S1k.18",
    "S1l.18 V5 S14.2p.15 S14.2q.15 S14.2r.15 S14.2s.15 S14.2t.15 S14.2u.15 S14.2v.15 S14.2w.15",
    "S14.2x.15 S14.2y.15 S14.2z.15 S14.30.15 S14.31.15 S14.32.15 S14.33.15 S14.34.15 S14.35.15",
    "S14.36.15 S14.37.15 S14.38.15 S14.39.15 S14.3a.15 S14.3b.15 S14.3c.15 S14.3d.15 S14.3e.15",
    "S9hw.37.9hx S2r S36 S2r.2s S3b.3e V1 Lq.2q4v S2w.3a S31.3a S37.2s S37.37 S34.34.3a S3b.2r Vq",
    "S31.2r S31.2s S31.36 Vz S2s.2y Vt X1k Vq S9kr.9jf S9mb.9mb S9md Xd Sjez Si1j Sgjw S9mv Sfik",
    "Shlm Sr8j Shm1 Sfj8 Sk68 Smch Sk2h Sg99 Sivg Sg3x Sk34 Sg7x Soqq Sn4v Srs9 Shkg Sgmx Slxw",
    "Sjh1 Sjmd Sfeo Sfex Ssi2 Sijq Sffx Sgkz Sjk7 Srxs Sjf7 So01 So6y Sglk Slts Skcp Skco Sn5f",
    "Sgaa Sgxi Ssp9 X4 S9hw.kdo.9hx S9hw.fex.9hx S9hw.fik.9hx S9hw.i2x.9hx S9hw.m9l.9hx",
    "S9hw.jf7.9hx S9hw.nh3.9hx S9hw.gd9.9hx S9hw.k0n.9hx X7 Sivr Sgkv Xe V6 X4a Vrd X3 Vh X3 Vd",
    "X3 V62 X6 Vc X4 V1 Xf Vc X4 V1k X8 Va X6 V14 X8 Vu X2 Vc X4 V2 Xe V9 X13 V9k X8 Ve X2 Vd X3",
    "Vb X3 V1l X1 V1 X4 Vg X2 Vc X4 Va X7 V43 X1 V2k La.2sao V1 Xsl Vwyo Xw V3dq X2 V4ge X2 V5rl",
    "Xf Vha X1wi Sfgd Sfg8 Sfgh S2tcy Sfog Sfqm Sfqz Sfsy Sfwa Sfx5 Sfzb Sfyn Sae6 S2ud6 Sg25",
    "Sg2c Sg2s Sg3b S2u58 Saex Sg2v Sg3x S2u6j Sg47 Sg4k Sfkc Sg4s Sg51 S3ly7 Sg6t Sg77 Safz Sg8r",
    "Sg92 Sgaa Sgaf Sahh Sgcn Sgcp Sgdg Sge2 L2.3pr8 Sgev Sgg9 Sggh Sggq Sghf Sghp R3.ghr S2v58",
    "Sm7k Sgju Sgkf S2vdv Sgkr Sgkx Sgli Sgpq Sgmw Sgnc Sgo8 Sgpu Sgs6 Sgsw Sgur Sgv7 R2.gw4 Sgwp",
    "Sgx7 Sgxf Sgxu Sh7a Sgzq Sh7b Sh1t Sh2s Sg7b Shke Shce Shdg She5 Shaj Shf6 Shf5 Shik S2x9g",
    "Shki Shkn Shl2 Shlm Shlu Shnm S2xm0 S2xnu Shrg Shsr Sht3 Shqw Shuu Saum Sav0 Shzc R2.i0u",
    "S2y88 Si4j Si54 Si5j Si5v S2yhk Si67 Si6e Sitv Si76 Sayp Si8w Si9a Sibk Sia5 S2z1g Sif7",
    "S2z1i Sige Sigb Sigs L2.3nog Sb3j Sikd Silk Sim5 Sind Sb4y S2zr7 Sb5o Sipc Sipf Sipi Siq2",
    "S3pg2 Siri R2.3035 Spoh R2.isi Sb7r S335k S3cgq Siua Siuj Sb8j Sivu Six9 Sixj Siyh Sj29 Sbay",
    "Sba4 Sj2s S30t0 Sj47 Sj7s Sj7w Sj7y Sj7w Sj96 Sj9q Sjaq Sjac Sjan Sjby Sjci Sjcm Sjdc Sjdn",
    "Sjfh Sjht Sjis Sjm8 S31n0 Sjlp Sjjw Sjmw Sjnn Sjqc S31td Sjs2 Sjph Sjop Sbhq Sju1 Sjum Sjvh",
    "Sjuf Sbjg Sk0f Sk18 S32mi Sk4j Skc8 Sk7d Sbo9 Sk9d Sbns Sbms Sg42 Sg45 Skcg Sk9o Spf1 Sdeh",
    "Skd3 Skd7 Skdd Skf2 Sker S33cz Sbpl Skje Skg5 Sklu Skn9 S33hp Skni Skkf Skr8 Sbrx Sksi Skv7",
    "Skx6 Sl2g S33xf Sl3v Sbvc Sl5t S34br Sl78 Sbwu Sl82 Sl9b L2.3l17 S34p9 S2yvf S34sa Sle6",
    "S354s Slhb Slhp Slev Sljq Slku Slmf Slkx Slm1 Slmg Slmt S357i Slkk Slrj Slta Sc37 Slvv Slvr",
    "S35jl Slq1 Sm0e S35ni S35ou Sm2u Sm61 Sm5a Sm57 Sc5y Sm6i Sm7x Sm7r Sm99 S2u5h Smdh S368z",
    "Smfw S36i3 Smjs Smk5 Smkw S36yw Smm8 Smmt S3779 S37dg Smt6 Smtn Scdo Smud R2.ce0 Smyv Smzg",
    "Sn01 Sn0l Sn2i Scgr Sn50 S386u Sn5q S389e Sn74 S2zrz Snbk S38v5 S38vs S38zo Scn0 Scnc Snhw",
    "S394j S394i S395l S396b L2.3iuf Snj3 Snka Scop Snm3 Scp2 Scra S39r1 Snri Snt8 Snv0 Sctf",
    "S3a5i Snyu S3a8q S3a9x So0f So2z Scvj So5c So5m So5r S3at8 R2.3b1j Soa6 Sd1e S3b8r Sog6 Sog9",
    "Sd2f S3beo Sonm Sd5s Soo8 Soo3 Soow S3c06 Sorn Sd8h Souf Sow2 Soxx Sd9w S3ciw S3cjr Sdax",
    "S3cnt Sp6i S3cqm Sp79 Spa2 Spad S3d22 S3d43 Spcw S3d7s Spdc S33a7 Sded Spf6 Sphf Sdfv Spj2",
    "Shx1 S3dlz S3dmd S33bn S33bw Spoh Spok Ssda Sdij Spsh Spsb Spst Sgc3 Sptd Sptf Sptp Spuu",
    "S3ebg Sput Spwd Spyb Sq0d Spwj Sq0t Sq1z Sq53 Spxv Sq16 Sq18 Sq1o S3eie S3eqz S3emt Sdnv",
    "Sq9d Sq9f Sqae S3g0a Sqck S3f3g Sdp9 Sdpd S3f75 S3ff6 Sdpn Sqj4 Sqjg Sqjr Sqjt Sqll Sqko",
    "Sqoe Sqn6 Sqrd Sqp4 Sqqz Sqrq Sdsn Squ9 Sqv5 Sdtl Sqxs Sqxv S3giv Sr13 Sr1a Sdv9 Sr22 Saez",
    "S3gz2 S3h46 Sdz2 Sdzb Srds Srfx Srka Srpx S3hrc Srsb Srsx Srvf Srxz S3i9b S2upw Ss0b Srzw",
    "Ss1c S2uvy Ss7o Ssag S3jki S3jl9 Ssk4 Ssmp Ssnl S3ju6 Ssnv Ssvs L2.3dht Ssxo St89 St91 S3ksa",
    "Stjf Sej9 Stkn S3l2v Seli Sts3 Siia Stur S3ltx S3lzu Sepa Sepi Su00 S3mdm Ser6 S3mhi R2.u17",
    "Su21 S3mpi Su76 Seur Su95 Sucn Sude Suf2 Sez2 S3nsg Sumq Suv4 Sv0d Sf66 Sf71 Sv3b S3owe Sf7c",
    "S3oxx S3p5a S3p8x Svcr Sf9y Sveh Svem Svet Svf3 Svfa Svgb S3pxc X15u V3t7 X5 V6ju Xf62u I6o",
    "X47bk"]

def hostMapping : Runs := Runs.ofLines hostMappingLines

end Unicode
end SiteGuard
