import RefViewer.Unicode.CodeSet

/-!
# Scripts

A script has a short and a long name, the code points that belong to it, and the code points
that are also used in it. The second set is left out where it equals the first.
-/

namespace RefViewer.Unicode

structure Script where
  names : List String
  own : CodeSet
  used : CodeSet

namespace Script

private def entry (names : List String) (own : String) (used : Option String) : Script :=
  ⟨names, .ofText own, .ofText (used.getD own)⟩

def all : List Script := [
  entry ["Adlm", "Adlam"]
    "2olc.23 4.9 4.1"
    (some "17j w 55a 2r5 2fge.23 4.9 4.1"),
  entry ["Aghb", "Caucasian_Albanian"]
    "1flc.1f b"
    (some "lg 18 18 1exd.1f b"),
  entry ["Ahom"]
    "1j40.q 2.e 4.m"
    none,
  entry ["Arab", "Arabic"]
    "16o.4 1.5 1.d 1.2 1.v 1.9 b.p 1.2z 1.x 28.1b 6o.x 5.22 1.s 1bv4.dp 2.3z w.f 34.4 1.3q
    31f.u 1v.5 8.8 x.5 181s.3 1.q 1.1 1 2 1.9 1.3 1 1 6 4 1 1 1.2 1.1 1 2 1 1 1 1 1.1 1 2.3
    1.6 1.3 1.3 1 1.9 1.g 5.2 1.4 1.g 1g.1"
    (some "16o.4 1.5y 1.x 28.1b 6o.x 5.22 1.s 4lr 2r5 14i6.hr w.f 34.4 1.3q rn.r 290.u 1v.5 8.8 x.5
    181s.3 1.q 1.1 1 2 1.9 1.3 1 1 6 4 1 1 1.2 1.1 1 2 1 1 1 1 1.1 1 2.3 1.6 1.3 1.3 1 1.9
    1.g 5.2 1.4 1.g 1g.1"),
  entry ["Armi", "Imperial_Aramaic"]
    "1g74.l 1.8"
    none,
  entry ["Armn", "Armenian"]
    "10x.11 2.1d 2.2 1chv.4"
    (some "lk fc.11 2.1d 2.2 1chv.4"),
  entry ["Avst", "Avestan"]
    "1gqo.1h 3.6"
    (some "53 8zc.1 17m6.1h 3.6"),
  entry ["Bali", "Balinese"]
    "5c0.24 1.1d"
    none,
  entry ["Bamu", "Bamum"]
    "www.2f 124o.fs"
    none,
  entry ["Bass", "Bassa_Vah"]
    "1zo0.t 2.5"
    none,
  entry ["Batk", "Batak"]
    "5hc.1f 8.3"
    none,
  entry ["Beng", "Bengali"]
    "1vk.3 1.7 2.1 2.l 1.6 1 3.3 2.8 2.1 2.3 8 4.1 1.4 2.o"
    (some "jg 1as.1 h.1 q.3 1.7 2.1 2.l 1.6 1 3.3 2.8 2.1 2.3 8 4.1 1.4 2.o 3pt 1 2.1 1 8 8 2 4 2.2
    rnd"),
  entry ["Bhks", "Bhaiksuki"]
    "1k3k.8 1.18 1.d a.s"
    none,
  entry ["Bopo", "Bopomofo"]
    "kq.1 93t.16 34.v"
    (some "jr 1.2 d g.1 8wl.2 4.9 1.c a.3 2 6 5f 9.16 34.v 14ed.1 7u.4"),
  entry ["Brah", "Brahmi"]
    "1hq8.25 4.z 9"
    none,
  entry ["Brai", "Braille"]
    "7wg.73"
    none,
  entry ["Bugi", "Buginese"]
    "54w.r 2.1"
    (some "54w.r 2.1 sdr"),
  entry ["Buhd", "Buhid"]
    "4lc.j"
    (some "4l1.1 9.j"),
  entry ["Cakm", "Chakma"]
    "1hxc.1g 1.h"
    (some "1ye.9 18w.9 1epi.1g 1.h"),
  entry ["Cans", "Canadian_Aboriginal"]
    "3y8.hr fk.1x 1ewq.f"
    none,
  entry ["Cari", "Carian"]
    "1f34.1c"
    (some "53 68y 2 2qb 15ym.1c"),
  entry ["Cham"]
    "xkw.1i 9.d 2.9 2.3"
    none,
  entry ["Cher", "Cherokee"]
    "3vk.2d 2.5 twy.27"
    (some "lc.2 1 6.1 m.1 b.1 38u.2d 2.5 twy.27"),
  entry ["Chrs", "Chorasmian"]
    "1ho0.r"
    none,
  entry ["Copt", "Coptic", "Qaac"]
    "rm.d 80g.37 5.6"
    (some "53 g8 3.1 1 30.1 30.d 80g.37 5.6 7r 1614.r"),
  entry ["Cpmn", "Cypro_Minoan"]
    "1nyo.2q"
    (some "1erk.1 972.2q"),
  entry ["Cprt", "Cypriot"]
    "1g5c.5 2 1.17 1.1 3 2"
    (some "1erk.2 4.18 3.8 1c0.5 2 1.17 1.1 3 2"),
  entry ["Cyrl", "Cyrillic"]
    "sg.3o 2.4o 4ls.a 4g 24 38n.v nr4.2n ham.1 18n4.1p x"
    (some "jg 1v.2 1 1 1 2 5 6m.8f 4ls.a 4g 24 3j 353.v 1v np8.2n ham.1 18n4.1p x"),
  entry ["Deva", "Devanagari"]
    "1s0.28 4.e 2.p vhc.v mio.9"
    (some "jg 18j.2a 2.16 3tc.12 1.1 s6 qpr.9 4m.v mio.9"),
  entry ["Diak", "Dives_Akuru"]
    "1ji8.6 2 2.7 1.1 1.t 1.1 2.b 9.9"
    none,
  entry ["Dogr", "Dogra"]
    "1jb4.1n"
    (some "1us.b vcw.9 m2u.1n"),
  entry ["Dsrt", "Deseret"]
    "1fcw.27"
    none,
  entry ["Dupl", "Duployan"]
    "2fpc.2y 5.c 3.8 7.9 2.3"
    (some "53 gf.1 1 o.1 8if 26kj.2y 5.c 3.8 7.9 2.7"),
  entry ["Egyp", "Egyptian_Hieroglyphs"]
    "1o1s.ut a.32y"
    none,
  entry ["Elba", "Elbasan"]
    "1fk0.13"
    (some "53 gd 1eyi.13"),
  entry ["Elym", "Elymaic"]
    "1hpc.m"
    none,
  entry ["Ethi", "Ethiopic"]
    "3k0.20 1.3 2.6 1 1.3 2.14 1.3 2.w 1.3 2.6 1 1.3 2.e 1.1k 1.3 2.1u 2.v 3.p 546.m 9.6 1.6
    1.6 1.6 1.6 1.6 1.6 1.6 opu.5 2.5 2.5 9.6 1.6 1qk1.6 1.3 1.1 1.e"
    (some "lq 2y9.20 1.3 2.6 1 1.3 2.14 1.3 2.w 1.3 2.6 1 1.3 2.e 1.1k 1.3 2.1u 2.v 3.p 546.m 9.6
    1.6 1.6 1.6 1.6 1.6 1.6 1.6 opu.5 2.5 2.5 9.6 1.6 1qk1.6 1.3 1.1 1.e"),
  entry ["Geor", "Georgian"]
    "3a8.11 1 5 2.16 1.3 2a8.16 2.2 37k.11 1 5"
    (some "53 y9 26u.11 1 5 2.1b 2a8.16 2.2 pm 2hx.11 1 5 77"),
  entry ["Glag", "Glagolitic"]
    "8ow.2n 2e1s.6 1.g 2.6 1.1 1.4"
    (some "53 gb 1 am 2 75 29d 31a 2at.2n df nqj 1pxs.6 1.g 2.6 1.1 1.4"),
  entry ["Gong", "Gunjala_Gondi"]
    "1kdc.5 1.1 1.10 1.1 1.5 7.9"
    (some "53 1po.1 1iii.5 1.1 1.10 1.1 1.5 7.9"),
  entry ["Gonm", "Masaram_Gondi"]
    "1kao.6 1.1 1.17 3 1.1 1.8 8.9"
    (some "1us.1 1ifu.6 1.1 1.17 3 1.1 1.8 8.9"),
  entry ["Goth", "Gothic"]
    "1f74.q"
    (some "53 gc.1 2 14 1eke.q"),
  entry ["Gran", "Grantha"]
    "1ibk.3 1.7 2.1 2.l 1.6 1.1 1.4 2.8 2.1 2.2 2 6 5.6 2.6 3.4"
    (some "1u9.1 h.1 hs.d 3bw 1.1 u.2 3.1 s6 1btb.3 1.7 2.1 2.l 1.6 1.1 1.4 1.9 2.1 2.2 2 6 5.6 2.6
    3.4 2fv.1 1"),
  entry ["Grek", "Greek"]
    "og.3 1.2 2.3 1 4 1 1.2 1 1.j 1.1q e.f 4yu.4 1e.4 4.4 2c 8w.l 2.5 2.11 2.5 2.7 1 1 1 1.u
    2.1g 1.e 1.d 2.5 1.i 2.2 1.8 87 rb2 gyi.26 h 155r.1x"
    (some "53 g8.1 2 1 1 a 1a 2 16.7 2.3 1 4 1 1.2 1 1.j 1.1q e.f 4yu.4 1e.4 4.4 2c.2 8u.l 2.5 2.11
    2.5 2.7 1 1 1 1.u 2.1g 1.e 1.d 2.5 1.i 2.2 1.8 2m 5k rb2 gyi.26 h 155r.1x"),
  entry ["Gujr", "Gujarati"]
    "22p.2 1.8 1.2 1.l 1.6 1.1 1.4 2.9 1.2 1.2 2 f.3 2.b 7.6"
    (some "1u9.1 h.1 7v.2 1.8 1.2 1.l 1.6 1.1 1.4 2.9 1.2 1.2 2 f.3 2.b 7.6 v1s.9"),
  entry ["Guru", "Gurmukhi"]
    "1z5.2 1.5 4.1 2.l 1.6 1.1 1.1 1.1 2 1.4 4.1 2.2 3 7.3 1 7.g"
    (some "1u9.1 h.1 4b.2 1.5 4.1 2.l 1.6 1.1 1.1 1.1 2 1.4 4.1 2.2 3 7.3 1 7.g v5l.9"),
  entry ["Hang", "Hangul"]
    "3cw.73 5ym.1 75.2l 35.u 1t.u nhd.s hv.8mb c.m 4.1c 7tw.u 3.5 2.5 2.5 2.2"
    (some "3cw.73 5xd.2 4.9 1.c e.2 6 5f 1h.2l 35.u 1t.u nhd.s hv.8mb c.m 4.1c 7k9.1 7u.4 1m.u 3.5
    2.5 2.5 2.2"),
  entry ["Hani", "Han"]
    "96o.p 1.2g c.5x 1b 1 p.8 e.3 qs.533 1s.g73 hkw.a5 2.2x n48.1 c.6 sg9.wyn w.3dp 2.4gd
    2.5rk f.h9 1wi.f1 15u.3t6 5.6jt"
    (some "53 91k.p 1.2g c.5x q.f 1.2 1.c 1.c 1.c 2 6.8 57 44.f w.11 9 1c.13 1k.1c f.b 1f 2g.o a.4
    2o.u 1.533 1s.g73 1ds.7 g6w.a5 2.2x ob.1 7u.4 m7w.1 c.6 jmx.h 63i.1 2pa.wyn w.3dp 2.4gd
    2.5rk f.h9 1wi.f1 15u.3t6 5.6jt"),
  entry ["Hano", "Hanunoo"]
    "4kg.k"
    (some "4kg.m"),
  entry ["Hatr", "Hatran"]
    "1gbk.i 1.1 5.4"
    none,
  entry ["Hebr", "Hebrew"]
    "13l.1i 8.q 4.5 1cfc.p 1.4 1 1.1 1.1 1.9"
    (some "lj.1 i0.1i 8.q 4.5 1cfc.p 1.4 1 1.1 1.1 1.9"),
  entry ["Hira", "Hiragana"]
    "9j5.2d 6.2 23q9.7y i t.2 crx"
    (some "9hd.2 4.9 1.c g.5 1 4.1 3.2d 2.7 2i.1 14js.1 7u.4 a 19.1 yu9.7y i t.2 crx"),
  entry ["Hluw", "Anatolian_Hieroglyphs"]
    "1s00.g6"
    none,
  entry ["Hmng", "Pahawh_Hmong"]
    "1zpc.1x a.9 1.6 1.k 5.i"
    none,
  entry ["Hmnp", "Nyiakeng_Puachue_Hmong"]
    "2n0g.18 3.d 2.9 4.1"
    none,
  entry ["Hung", "Old_Hungarian"]
    "1h1c.1e d.1e 7.5"
    (some "6e2 2 2qb f 17we.1e d.1e 7.5"),
  entry ["Ital", "Old_Italic"]
    "1f5s.z 9.2"
    none,
  entry ["Java", "Javanese"]
    "xhc.25 2.9 4.1"
    (some "xhc.25 1.a 4.1"),
  entry ["Kali", "Kayah_Li"]
    "xds.19 1"
    (some "xds.1b"),
  entry ["Kana", "Katakana"]
    "9lt.2h 2.2 6o.f 5s.1a 1.2f 14b2.9 1.18 ytu.3 1.6 1.1 1 7z.2 1e e.3"
    (some "lh t 8v1.2 4.9 1.c g.5 1 4.1 2j.3 3.2n 6o.f 5s.1a 1.2f 1431.1 7u.1q yts.3 1.6 1.1 1 7z.2
    1e e.3"),
  entry ["Kawi"]
    "1kow.g 1.14 3.s"
    none,
  entry ["Khar", "Kharoshthi"]
    "1gjk.3 1.1 5.7 1.2 1.s 2.2 4.9 7.8"
    none,
  entry ["Khmr", "Khmer"]
    "4n4.2l 2.9 6.9 di.v"
    none,
  entry ["Khoj", "Khojki"]
    "1i4g.h 1.1a"
    (some "25i.9 v28.9 kw6.h 1.1a"),
  entry ["Kits", "Khitan_Small_Script"]
    "20o4 5cr.d1 15"
    none,
  entry ["Knda", "Kannada"]
    "2gw.c 1.2 1.m 1.9 1.4 2.8 1.2 1.3 7.1 5.2 1.3 2.9 1.2"
    (some "1u9.1 h.1 m2.c 1.2 1.m 1.9 1.4 2.8 1.2 1.3 7.1 5.2 1.3 2.9 1.2 34s 1.1 6 n 1 ri3.5"),
  entry ["Kthi", "Kaithi"]
    "1hts.1u a"
    (some "1uu.9 79d o3i.9 kli.1u a"),
  entry ["Lana", "Tai_Tham"]
    "55s.1q 1.s 2.a 6.9 6.d"
    none,
  entry ["Laoo", "Lao"]
    "2v5.1 1 1.4 1.n 1 1.m 2.4 1 1.6 1.9 2.3"
    none,
  entry ["Latn", "Latin"]
    "1t.p 6.p 1b f 5.m 1.u 1.cg 13.4 55n.11 6.1c 5.3 5.c 1.1x 1t.73 a9 d g.c 3x.1 6 r h.14
    253.v o82.2t 3.29 k.e mo.16 1.8 1.3 fpy.6 t6.p 6.p 1lx.5 1.15 1.8 16it.u 6.5"
    (some "1t.p 6.p 1b c 2 5.m 1.u 1.cg 3 a 1.2 1 9 1 6.4 r.e 1.1 1 f.2 7.1 1.1 12 5 4.c 7p.1 y2.1
    1ig 2dg.11 6.1c 5.3 5.c 1.1x 1l 7.73 8f 1t d g.c 2b 1l.1 6 r h.14 253.v bb nvs.7 q.2t
    3.29 k.e 8e e9.16 1.8 1.3 fpy.6 t6.p 6.p 1lx.5 1.15 1.8 16it.u 6.5"),
  entry ["Lepc", "Lepcha"]
    "5j4.1j 3.e 3.2"
    none,
  entry ["Limb", "Limbu"]
    "4xs.u 1.b 4.b 4 3.b"
    (some "1ut 32y.u 1.b 4.b 4 3.b"),
  entry ["Lina", "Linear_A"]
    "1fr4.8m 9.l a.7"
    (some "1err.18 y4.8m 9.l a.7"),
  entry ["Linb", "Linear_B"]
    "1ekg.b 1.p 1.i 1.1 1.e 2.d y.3e"
    (some "1ekg.b 1.p 1.i 1.1 1.e 2.d y.3e 5.2 4.18 3.8"),
  entry ["Lisu"]
    "wk0.1b o8g"
    (some "jg g 8xo.1 n2c.1b o8g"),
  entry ["Lyci", "Lycian"]
    "1f28.s"
    (some "6e2 18o5.s"),
  entry ["Lydi", "Lydian"]
    "1gdc.p 5"
    (some "53 8zd 178u.p 5"),
  entry ["Mahj", "Mahajani"]
    "1hzk.12"
    (some "53 1po.b vcw.9 kra.12"),
  entry ["Maka", "Makasar"]
    "1ko0.o"
    none,
  entry ["Mand", "Mandaic"]
    "1mo.r 2"
    (some "18g e7.r 2"),
  entry ["Mani", "Manichaean"]
    "1gow.12 4.b"
    (some "18g 1fgf.12 4.b"),
  entry ["Marc", "Marchen"]
    "1k6o.v 2.l 1.d"
    none,
  entry ["Medf", "Medefaidrin"]
    "20cg.2i"
    none,
  entry ["Mend", "Mende_Kikakui"]
    "2oe8.5g 2.f"
    none,
  entry ["Merc", "Meroitic_Cursive"]
    "1ggw.n 4.j 2.19"
    none,
  entry ["Mero", "Meroitic_Hieroglyphs"]
    "1gg0.v"
    (some "6e5 1a1u.v"),
  entry ["Mlym", "Malayalam"]
    "2kg.c 1.2 1.1e 1.2 1.5 4.f 2.p"
    (some "1u9.1 h.1 pm.c 1.2 1.1e 1.2 1.5 4.f 2.p 316 n ri5.2"),
  entry ["Modi"]
    "1iww.1w b.9"
    (some "x80.9 lom.1w b.9"),
  entry ["Mong", "Mongolian"]
    "4qo.1 2 1.j 6.2g 7.16 1e45.c"
    (some "4qo.p 6.2g 7.16 1hg 34h.1 5.3 19hw.c"),
  entry ["Mroo", "Mro"]
    "1zk0.u 1.9 4.1"
    none,
  entry ["Mtei", "Meetei_Mayek"]
    "xr4.m 5l.19 2.9"
    none,
  entry ["Mult", "Multani"]
    "1i80.6 1 1.3 1.e 1.a"
    (some "21y.9 1g5s.6 1 1.3 1.e 1.a"),
  entry ["Mymr", "Myanmar"]
    "35s.4f u9s.u 2p.v le8.j"
    (some "35s.4f u4u 4x.u 2p.v le8.j"),
  entry ["Nagm", "Nag_Mundari"]
    "2nrk.15"
    none,
  entry ["Nand", "Nandinagari"]
    "1jmo.7 2.19 2.a"
    (some "1u9 i.1 ow.9 35l 8 7 rhx.5 mei.7 2.19 2.a"),
  entry ["Narb", "Old_North_Arabian"]
    "1gn4.v"
    none,
  entry ["Nbat", "Nabataean"]
    "1g8w.u 8.8"
    none,
  entry ["Newa"]
    "1iio.2j 1.4"
    (some "1u9.1 3uq 1.1 9 6 1 1 1csy.2j 1.4"),
  entry ["Nkoo", "Nko"]
    "1j4.1m 2.2"
    (some "170 e 3 bk.1m 2.2 1cfy.1"),
  entry ["Nshu", "Nushu"]
    "20o1 cy6.az"
    none,
  entry ["Ogam", "Ogham"]
    "4g0.s"
    none,
  entry ["Olck", "Ol_Chiki"]
    "5lc.1b"
    none,
  entry ["Orkh", "Old_Turkic"]
    "1gxs.20"
    (some "6e2 2qd 17tb.20"),
  entry ["Orya", "Oriya"]
    "269.2 1.7 2.1 2.l 1.6 1.1 1.4 2.8 2.1 2.2 7.2 4.1 1.4 2.h"
    (some "1u9.1 h.1 bf.2 1.7 2.1 2.l 1.6 1.1 1.4 2.8 2.1 2.2 7.2 4.1 1.4 2.h 3fm n"),
  entry ["Osge", "Osage"]
    "1fhs.z 4.z"
    (some "ld 2 6 24 1etz.z 4.z"),
  entry ["Osma", "Osmanya"]
    "1fgg.t 2.9"
    none,
  entry ["Ougr", "Old_Uyghur"]
    "1hm8.p"
    (some "18g 1fht vx.p"),
  entry ["Palm", "Palmyrene"]
    "1g80.v"
    none,
  entry ["Pauc", "Pau_Cin_Hau"]
    "1juo.1k"
    none,
  entry ["Perm", "Old_Permic"]
    "1f80.16"
    (some "53 g8 5.2 a a7 1ebw.16"),
  entry ["Phag", "Phags_Pa"]
    "x8g.1j"
    (some "4qq.1 1 1m1 34i nr1.1j"),
  entry ["Phli", "Inscriptional_Pahlavi"]
    "1gtc.i 5.7"
    none,
  entry ["Phlp", "Psalter_Pahlavi"]
    "1gu8.h 7.3 c.6"
    (some "18g 1flr.h 7.3 c.6"),
  entry ["Phnx", "Phoenician"]
    "1gcg.r 3"
    none,
  entry ["Plrd", "Miao"]
    "20hs.22 4.1k 7.g"
    none,
  entry ["Prti", "Inscriptional_Parthian"]
    "1gsg.l 2.7"
    none,
  entry ["Rjng", "Rejang"]
    "xf4.z b"
    none,
  entry ["Rohg", "Hanifi_Rohingya"]
    "1h4w.13 8.9"
    (some "170 e 3 w 43 1fsb.13 8.9"),
  entry ["Runr", "Runic"]
    "4gw.22 3.a"
    (some "4gw.2g"),
  entry ["Samr", "Samaritan"]
    "1kw.19 2.e"
    (some "1kw.19 2.e 7hu"),
  entry ["Sarb", "Old_South_Arabian"]
    "1gm8.v"
    none,
  entry ["Saur", "Saurashtra"]
    "xa8.1x 8.b"
    none,
  entry ["Sgnw", "SignWriting"]
    "2l8g.i3 f.4 1.e"
    none,
  entry ["Shaw", "Shavian"]
    "1ff4.1b"
    (some "53 1fa0.1b"),
  entry ["Shrd", "Sharada"]
    "1i0w.2n 1vk.7"
    (some "1u9 3ut 1 2.1 2 9 2 ria.5 2 ksn.2n 1vk.7"),
  entry ["Sidd", "Siddham"]
    "1itc.1h 2.11"
    none,
  entry ["Sind", "Khudawadi"]
    "1i9c.1m 5.9"
    (some "1us.1 vd6.9 l12.1m 5.9"),
  entry ["Sinh", "Sinhala"]
    "2o1.2 1.h 3.n 1.8 1 2.6 3 4.5 1 1.7 6.9 2.2 1fcc.j"
    (some "1us.1 t7.2 1.h 3.n 1.8 1 2.6 3 4.5 1 1.7 6.9 2.2 2yl 1cdq.j"),
  entry ["Sogd", "Sogdian"]
    "1hkg.15"
    (some "18g 1gbz.15"),
  entry ["Sogo", "Old_Sogdian"]
    "1hj4.13"
    none,
  entry ["Sora", "Sora_Sompeng"]
    "1hw0.o 7.9"
    none,
  entry ["Soyo", "Soyombo"]
    "1jrk.2a"
    none,
  entry ["Sund", "Sundanese"]
    "5fk.1r 74.7"
    none,
  entry ["Sylo", "Syloti_Nagri"]
    "x6o.18"
    (some "1us.1 3k.9 v80.18"),
  entry ["Syrc", "Syriac"]
    "1ds.d 1.1n 2.2 7k.a"
    (some "lf.1 2.1 1 o.2 7.1 1.1 ka e.1 2 w a.a q 3z.d 1.1n 2.2 7k.a 499 1"),
  entry ["Tagb", "Tagbanwa"]
    "4m8.c 1.2 1.1"
    (some "4l1.1 15.c 1.2 1.1"),
  entry ["Takr", "Takri"]
    "1j0g.1l 6.9"
    (some "1us.1 vd6.9 ls6.1l 6.9"),
  entry ["Tale", "Tai_Le"]
    "500.t 2.4"
    (some "lc.1 5.1 3 2lv.9 1s6.t 2.4"),
  entry ["Talu", "New_Tai_Lue"]
    "51c.17 4.p 6.a 3.1"
    none,
  entry ["Taml", "Tamil"]
    "29u.1 1.5 3.2 1.3 3.1 1 1.1 3.1 3.2 3.b 4.4 3.2 1.3 2 6 e.k 1ih1.1d d"
    (some "1u9.1 h.1 f0.1 1.5 3.2 1.3 3.1 1 1.1 3.1 3.2 3.b 4.4 3.2 1.3 2 6 e.k 3bz ro8 ky5 1 1j.1
    2gz.1d d"),
  entry ["Tang", "Tangut"]
    "20o0 v.5bz e8.u 2p.36"
    (some "9gw.f dr 1qsw v.5bz e8.u 2p.36"),
  entry ["Tavt", "Tai_Viet"]
    "xog.1u o.4"
    none,
  entry ["Telu", "Telugu"]
    "2dc.c 1.2 1.m 1.f 2.8 1.2 1.3 7.1 1.2 1.1 2.3 2.9 7.8"
    (some "1u9.1 h.1 ii.c 1.2 1.m 1.f 2.8 1.2 1.3 7.1 1.2 1.1 2.3 2.9 7.8 385.1 1 1 n"),
  entry ["Tfng", "Tifinagh"]
    "8xc.1j 7.1 e"
    (some "le 1 1.3 p 8b0.1j 7.1 e"),
  entry ["Tglg", "Tagalog"]
    "4jk.l 9"
    (some "4jk.l 9 l.1"),
  entry ["Thaa", "Thaana"]
    "1hc.1d"
    (some "170 e.1 2 1s.9 7q.1d 1cn4 a"),
  entry ["Thai"]
    "2rl.1l 5.r"
    (some "jg q 17 19 24v.1l 5.r"),
  entry ["Tibt", "Tibetan"]
    "2yo.1z 1.z 4.12 1.z 1.e 1.6 4.1"
    (some "2yo.1z 1.z 4.12 1.z 1.e 1.6 4.1 6ct.3"),
  entry ["Tirh", "Tirhuta"]
    "1im8.1z 8.9"
    (some "1u9.1 h.1 3u7 c f ri5.9 ldy.1z 8.9"),
  entry ["Tnsa", "Tangsa"]
    "1zlc.26 1.9"
    none,
  entry ["Toto"]
    "2nbk.u"
    (some "jg 2ms3.u"),
  entry ["Ugar", "Ugaritic"]
    "1f9c.t 1"
    none,
  entry ["Vaii", "Vai"]
    "wlc.8b"
    none,
  entry ["Vith", "Vithkuqi"]
    "1fn4.a 1.e 1.6 1.1 1.a 1.e 1.6 1.1"
    none,
  entry ["Wara", "Warang_Citi"]
    "1jfk.2a c"
    none,
  entry ["Wcho", "Wancho"]
    "2ncw.1l 5"
    none,
  entry ["Xpeo", "Old_Persian"]
    "1fa8.z 4.d"
    none,
  entry ["Xsux", "Cuneiform"]
    "1kw0.pl 2u.32 1.4 b.5f"
    none,
  entry ["Yezi", "Yezidi"]
    "1hfk.15 1.2 2.1"
    (some "170 e 3 1s.9 1g5y.15 1.2 2.1"),
  entry ["Yiii", "Yi"]
    "vls.wc 3.1i"
    (some "9hd.1 5.9 2.7 67 lxg.wc 3.1i hwa.4"),
  entry ["Zanb", "Zanabazar_Square"]
    "1jpc.1z"
    none,
  entry ["Zinh", "Inherited", "Qaai"]
    "lc.33 7p.1 ck.a q kg.3 3ff.19 2.b dg.2 1.c 1.6 4 6 3.1 5i.1r ek.1 5e.w 309.3 2z.1 14kl.f
    g.d r3 6a 38a 1138.19 2.m f4.2 h.7 2.6 u.3 h45u.6n"
    (some "lr 2 1.e 3.6 2 2.f 1.1 1.h 1.4 1.3 168.1 3ff.19 2.b k6.1h 1 1.4 ek.1 5e.v 17o0.f g.d r3
    14hu.19 2.m f4.2 h.7 2.6 u.3 h45u.6n"),
  entry ["Zyyy", "Common"]
    "0.1s q.5 q.1a 1.e 1.4 n v ch.12 5.4 2.j 38 9 6 1 hp 6 e 3 w 4c ec 3l.1 yh b9.3 82 167.2
    1z.1 5n.1 1 y5 d 7.3 1.5 1.2 2 lh.b 2.2e 1.a 3.a 1.e h.x 1q.11 1.2 2.5 1.q 1.g 15.2 4.ih
    m.a l.pr 74.hf 2.3t e8.2l b6.k 1 1.o f.7 4.3 2j.1 3 2i.1 43.f w.11 9 1c.1r v.28 1b 2g.4n
    534.1r hkw.x 2u.2 4l.9 6s 4g az e.1 g5u.1 5s.9 m.y 1.i 1.3 43 1.v q.5 q.a a 19.1 1s.6 1.6
    a.4 76.2 4.18 3.8 28.c 1f.18 6c.q 10o4.3 318.70 3.c3 6.m f.g 2n.37 1o.6t a.12 2.1p 3.g
    8.1 7.t 4.1o 5x.j c.j c.2e 9.o 3r.2c 1.1y 1.1 2 2.1 2.3 1.b 1 1.6 1.1s 1.3 2.7 1.6 1.r
    1.3 1.4 1 3.6 1.9f 2.83 2.1d 41d.1v 24.1o jm.17 4.2r c.e 2.e 1.e 1.10 a.4t 1k.p 1.1 d.17
    4.8 7.1 e.5 4a.rc 3.g 3.c 3.61 6.b 4 f.b 4.1j 8.9 6.13 8.t 2.b 4.1 e.8 13.9j 8.d 2.c 3.a
    3.1k 1 4.f 2.b 4.9 7.42 1.2u gvly u.2n"
    (some "0.1s q.5 q.1a 1.b 1.1 1.4 n v ch.2 1.9 1 3 1.8 1 1.5 5.4 2.j 3i 6 1 hp 5z ec 124 b9.3
    36v.b 2.w 1.u 1.9 1.1 1.6 1.a 3.a 1.e h.x 1q.11 1.2 2.5 1.q 1.g 15.2 4.ih m.a l.pr 74.hf
    2.3t e8.m 1.n 2.9 1.3 1 1.p bm 3 d d l ep.n v 1d.e c.3 4h.9 5.2n v 534.1r hl4.p 2u.2 r4
    e.1 gbo.9 m.k 2.b 1.i 1.3 43 1.v q.5 q.5 3j.6 1.6 a.4 b6.c 1f.18 13wj.70 3.c3 6.m f.g
    2n.37 1o.6t a.12 2.1p 3.g 8.1 7.t 4.1o 5x.j c.j c.2e r.6 3r.2c 1.1y 1.1 2 2.1 2.3 1.b 1
    1.6 1.1s 1.3 2.7 1.6 1.r 1.3 1.4 1 3.6 1.9f 2.83 2.1d 41d.1v 24.1o jm.17 4.2r c.e 2.e 1.e
    1.10 a.4t 1k.p 1.1 d.17 4.8 n.5 4a.rc 3.g 3.c 3.61 6.b 4 f.b 4.1j 8.9 6.13 8.t 2.b 4.1
    e.8 13.9j 8.d 2.c 3.a 3.1k 1 4.f 2.b 4.9 7.42 1.2u gvly u.2n"),
  entry ["Gara", "Garay"]
    "1h6o.11 3.s 8.1"
    (some "170 e 3 1fz4.11 3.s 8.1"),
  entry ["Gukh", "Gurung_Khema"]
    "1xq8.1l"
    (some "1ut 1vve.1l"),
  entry ["Krai", "Kirat_Rai"]
    "205c.1l"
    none,
  entry ["Onao", "Ol_Onal"]
    "2nyo.16 4"
    (some "1us.1 2m3u.16 4"),
  entry ["Sunu", "Sunuwar"]
    "1k1s.x e.9"
    (some "lc.1 1 9 2 s 3 1jf2.x e.9"),
  entry ["Todr", "Todhri"]
    "1fpc.1f"
    (some "ld 2 2 9 1 22 1f1d.1f"),
  entry ["Tutg", "Tulu_Tigalari"]
    "1if4.9 1 2 1.11 1.9 1 2 1.3 1.9 1.1 8.1"
    (some "2jq.9 35u 1 ri3.5 57 l1q.9 1 2 1.11 1.9 1 2 1.3 1.9 1.1 8.1"),
  entry ["Sidt", "Sidetic"]
    "1ge8.p"
    none,
  entry ["Tols", "Tolong_Siki"]
    "1kfk.17 4.9"
    none,
  entry ["Berf", "Beria_Erfe"]
    "20f4.o 2.o"
    none,
  entry ["Tayo", "Tai_Yo"]
    "2o5c.u 1.l 8.1"
    none]

end Script

end RefViewer.Unicode
