import RefViewer.Unicode.ShiftTable

/-!
# Case tables

Three maps between code points: to lower case, to upper case, and to the first member of the
case-folding class. The upper-case forms that are longer than one character stand apart, and
so does the only such lower-case form.
-/

namespace RefViewer.Unicode.CaseTable

def lower : ShiftTable := .ofText
  "1t.p.w 2t.m.w 1.6.w x.n:1 3.2:1 2.7:1 2.m:1 1.0.-3d 0.2:1 3.0.5u 0.1:1 1.0.5q 0.0.1 1.1.5p
    0.0.1 2.0.27 0.0.5m 0.0.5n 0.0.1 1.0.5p 0.0.5r 1.0.5v 0.0.5t 0.0.1 3.0.5v 0.0.5x 1.0.5y
    0.2:1 1.0.62 0.0.1 1.0.62 2.0.1 1.0.62 0.0.1 1.1.61 0.1:1 1.0.63 0.0.1 3.0.1 7.0.2 0.0.1
    1.0.2 0.0.1 1.0.2 0.8:1 2.8:1 2.0.2 0.1:1 1.0.-2p 0.0.-1k 0.j:1 1.0.-3m 1.8:1 7.0.8bv 0.0.1
    1.0.-4j 0.0.8bs 2.0.1 1.0.-5f 0.0.1x 0.0.1z 0.4:1 81.1:1 3.0.1 8.0.38 6.0.12 1.2.11 1.0.1s
    1.1.1r 1.g.w 1.8.w z.0.8 8.b:1 5.0.-1o 2.0.1 1.0.-7 0.0.1 2.2.-3m 0.f.28 0.v.w 1c.g:1 9.q:1
    1.0.f 0.6:1 2.1b:1 2.11.1c 289.11.5ls 1.0.5ls 5.0.5ls k2.27.tzk 0.5.8 1oz.0.1 6.16.-2bk
    2.2.-2bk 8w.22:1 9.0.-5vj 1.1b:1 9.7.-8 8.5.-8 a.7.-8 8.7.-8 8.5.-8 b.3:-8 8.7.-8 o.7.-8
    8.7.-8 8.7.-8 8.1.-8 0.1.-22 0.0.-9 b.3.-2e 0.0.-9 b.1.-8 0.1.-2s c.1.-8 0.1.-34 0.0.-7
    b.1.-3k 0.1.-3i 0.0.-9 89.0.-5st 3.0.-6gv 0.0.-6di 6.0.s 19.f.g j.0.1 mq.p.q 1f4.1b.1c
    1c.0.1 1.0.-8af 0.0.-2xy 0.0.-89z 2.2:1 1.0.-8bg 0.0.-8al 0.0.-8bj 0.0.-8bi 1.0.1 2.0.1
    8.1.-8cf 0.1d:1 8.1:1 4.0.1 nyl.m:1 j.d:1 3r.6:1 3.u:1 a.1:1 1.0.-r9g 0.4:1 4.0.1 1.0.-wmg
    2.1:1 3.9:1 1.0.-wn8 0.0.-wnj 0.0.-wnf 0.0.-wn5 0.0.-wn8 1.0.-wlu 0.0.-wmi 0.0.-wlx 0.0.ps
    0.7:1 1.0.-1c 0.0.-wn7 0.0.-raw 0.1:1 1.0.-wo7 0.7:1 1.0.-wu9 o.0.1 h7v.p.w xx.13.14
    3s.z.14 4c.a.13 1.e.13 1.6.13 1.1.13 1d6.1e.1s 4d.l.w 27u.v.w gw0.v.w 1s.o.r o5j.x.y"

def upper : ShiftTable := .ofText
  "2p.p.-w 1m.0.kn 16.m.-w 1.6.-w 0.0.3d 1.n:-1 1.0.-6g 1.2:-1 2.7:-1 2.m:-1 2.2:-1 0.0.-8c
    0.0.5f 2.1:-1 2.0.-1 3.0.-1 5.0.-1 2.0.2p 3.0.-1 0.0.4j 0.0.wu9 2.0.3m 2.2:-1 2.0.-1 4.0.-1
    2.0.-1 3.1:-1 2.0.-1 3.0.-1 1.0.1k 5.0.-1 0.0.-2 1.0.-1 0.0.-2 1.0.-1 0.0.-2 1.7:-1 0.0.-27
    1.8:-1 2.0.-1 0.0.-2 1.0.-1 3.j:-1 3.8:-1 8.0.-1 2.1.8cf 1.0.-1 4.4:-1 0.0.8bj 0.0.8bg
    0.0.8bi 0.0.-5u 0.0.-5q 1.1.-5p 1.0.-5m 1.0.-5n 0.0.wnj 3.0.-5p 0.0.wnf 1.0.-5r 0.0.wo7
    0.0.wmg 0.0.wn8 1.0.-5t 0.0.-5v 0.0.wn8 0.0.8af 0.0.wn5 2.0.-5v 1.0.8al 0.0.-5x 2.0.-5y
    7.0.89z 2.0.-62 1.0.wn7 0.0.-62 3.0.wmi 0.0.-62 0.0.-1x 0.1.-61 0.0.-1z 5.0.-63 a.0.wlx
    0.0.wlu 4m.0.2c 17.1:-1 3.0.-1 3.2.3m 1a.0.-12 0.2.-11 1.g.-w 0.0.-v 0.8.-w 0.0.-1s 0.1.-1r
    1.0.-1q 0.0.-1l 3.0.-1b 0.0.-1i 0.0.-8 1.b:-1 0.0.-2e 0.0.-28 0.0.7 0.0.-38 1.0.-2o 2.0.-1
    2.0.-1 1g.v.-w 0.f.-28 1.g:-1 9.q:-1 2.6:-1 0.0.-f 1.1b:-1 1d.11.-1c 289.16.2bk 2.2.2bk
    l4.5.-8 1oi.0.-4tq 0.0.-4tp 0.0.-4tg 0.1.-4te 0.0.-4tf 0.0.-4t8 0.0.-4rp 0.0.r7m 1.0.-1
    6m.0.r9g 3.0.2xy g.0.raw 36.22:-1 5.0.-1n 5.1b:-1 0.7.8 8.5.8 a.7.8 8.7.8 8.5.8 b.3:8 8.7.8
    8.1.22 0.3.2e 0.1.2s 0.1.3k 0.1.34 0.1.3i 1e.1.8 c.0.-5k5 h.1.8 e.1.8 3.0.7 a0.0.-s x.f.-g
    4.0.-1 nf.p.-q 1fq.1b.-1c 1.0.-1 3.0.-8bv 0.0.-8bs 1.2:-1 6.0.-1 2.0.-1 a.1d:-1 8.1:-1
    4.0.-1 c.11.-5ls 1.0.-5ls 5.0.-5ls nwz.m:-1 j.d:-1 3r.6:-1 3.u:-1 a.1:-1 2.4:-1 4.0.-1
    4.1:-1 0.0.1c 2.9:-1 b.7:-1 4.1:-1 2.7:-1 q.0.-1 nw.0.-ps s.27.-tzk ght.p.-w y5.13.-14
    3s.z.-14 4b.a.-13 1.e.-13 1.6.-13 1.1.-13 1dv.1e.-1s 3h.l.-w 27u.v.-w gw0.v.-w 1n.o.-r
    o5q.x.-y"

/-- Sends each member of a folding class to the least member. -/
def fold : ShiftTable := .ofText
  "2p.p.-w 2t.m.-w 1.6.-w 2.n:-1 3.2:-1 2.7:-1 2.m:-1 0.0.-3d 1.2:-1 0.0.-8c 3.1:-1 2.0.-1
    3.0.-1 5.0.-1 6.0.-1 7.2:-1 2.0.-1 4.0.-1 2.0.-1 3.1:-1 2.0.-1 3.0.-1 7.0.-1 0.0.-2 1.0.-1
    0.0.-2 1.0.-1 0.0.-2 1.7:-1 0.0.-27 1.8:-1 2.0.-1 0.0.-2 1.0.-1 0.0.-2p 0.0.-1k 1.j:-1
    0.0.-3m 2.8:-1 8.0.-1 0.0.-4j 4.0.-1 0.0.-5f 3.4:-1 3.0.-5u 0.0.-5q 1.1.-5p 1.0.-5m 1.0.-5n
    4.0.-5p 2.0.-5r 4.0.-5t 0.0.-5v 5.0.-5v 2.0.-5x 2.0.-5y a.0.-62 2.0.-62 4.0.-62 0.0.-1x
    0.1.-61 0.0.-1z 5.0.-63 66.1:-1 3.0.-1 x.0.-2c 2.0.-kn f.0.-12 0.2.-11 1.7.-w 0.0.-38
    0.1.-w 0.0.-lj 0.4.-w 0.0.-v 0.8.-w 0.0.-1s 0.1.-1r 1.0.-1q 0.0.-1l 3.0.-1b 0.0.-1i 0.0.-8
    1.b:-1 0.0.-2e 0.0.-28 1.0.-38 0.0.-2k 0.0.-2o 2.0.-1 0.0.-7 1.0.-1 1.2.-3m 1c.v.-w 0.f.-28
    1.g:-1 9.q:-1 2.6:-1 0.0.-f 1.1b:-1 1d.11.-1c 2up.5.-8 1oi.0.-4tq 0.0.-4tp 0.0.-4tg
    0.1.-4te 0.0.-4tf 0.0.-4t8 0.0.-4rp 2.0.-1 5.16.-2bk 2.2.-2bk 8x.22:-1 5.0.-1n 2.0.-5vj
    2.1b:-1 8.7.-8 8.5.-8 a.7.-8 8.7.-8 8.5.-8 b.3:-8 8.7.-8 o.7.-8 8.7.-8 8.7.-8 8.1.-8
    0.1.-22 0.0.-9 1.0.-5mh 9.3.-2e 0.0.-9 6.0.-5kz 4.1.-8 0.1.-2s 7.0.-5kj 4.1.-8 0.1.-34
    0.0.-7 b.1.-3k 0.1.-3i 0.0.-9 89.0.-5tp 3.0.-6hr 0.0.-6ee y.0.-s x.f.-g 4.0.-1 nf.p.-q
    1fq.1b.-1c 1.0.-1 0.0.-8af 0.0.-2xy 0.0.-89z 0.0.-8bv 0.0.-8bs 1.2:-1 0.0.-8bg 0.0.-8al
    0.0.-8bj 0.0.-8bi 2.0.-1 2.0.-1 7.1.-8cf 1.1d:-1 8.1:-1 4.0.-1 c.11.-5ls 1.0.-5ls 5.0.-5ls
    nwz.4:-1 0.0.-r7m 0.0.-r7n 1.g:-1 j.d:-1 3r.6:-1 3.u:-1 a.1:-1 0.0.-r9g 1.4:-1 4.0.-1
    0.0.-wmg 3.1:-1 3.9:-1 0.0.-wn8 0.0.-wnj 0.0.-wnf 0.0.-wn5 0.0.-wn8 1.0.-wlu 0.0.-wmi
    0.0.-wlx 2.7:-1 0.0.-1c 0.0.-wn7 0.0.-raw 1.1:-1 0.0.-wo7 1.7:-1 0.0.-wu9 p.0.-1 nw.0.-ps
    s.27.-tzk fnq.0.-1 u2.p.-w y5.13.-14 3s.z.-14 4b.a.-13 1.e.-13 1.6.-13 1.1.-13 1dv.1e.-1s
    3h.l.-w 27u.v.-w gw0.v.-w 1n.o.-r o5q.x.-y"

def longLower : List (Nat × List Nat) :=
  [(0x130, [0x69, 0x307])]

def longUpper : List (Nat × List Nat) :=
  [(0xdf, [0x53, 0x53]), (0x149, [0x2bc, 0x4e]), (0x1f0, [0x4a, 0x30c]),
   (0x390, [0x399, 0x308, 0x301]), (0x3b0, [0x3a5, 0x308, 0x301]), (0x587, [0x535, 0x552]),
   (0x1e96, [0x48, 0x331]), (0x1e97, [0x54, 0x308]), (0x1e98, [0x57, 0x30a]),
   (0x1e99, [0x59, 0x30a]), (0x1e9a, [0x41, 0x2be]), (0x1f50, [0x3a5, 0x313]),
   (0x1f52, [0x3a5, 0x313, 0x300]), (0x1f54, [0x3a5, 0x313, 0x301]),
   (0x1f56, [0x3a5, 0x313, 0x342]), (0x1f80, [0x1f08, 0x399]), (0x1f81, [0x1f09, 0x399]),
   (0x1f82, [0x1f0a, 0x399]), (0x1f83, [0x1f0b, 0x399]), (0x1f84, [0x1f0c, 0x399]),
   (0x1f85, [0x1f0d, 0x399]), (0x1f86, [0x1f0e, 0x399]), (0x1f87, [0x1f0f, 0x399]),
   (0x1f88, [0x1f08, 0x399]), (0x1f89, [0x1f09, 0x399]), (0x1f8a, [0x1f0a, 0x399]),
   (0x1f8b, [0x1f0b, 0x399]), (0x1f8c, [0x1f0c, 0x399]), (0x1f8d, [0x1f0d, 0x399]),
   (0x1f8e, [0x1f0e, 0x399]), (0x1f8f, [0x1f0f, 0x399]), (0x1f90, [0x1f28, 0x399]),
   (0x1f91, [0x1f29, 0x399]), (0x1f92, [0x1f2a, 0x399]), (0x1f93, [0x1f2b, 0x399]),
   (0x1f94, [0x1f2c, 0x399]), (0x1f95, [0x1f2d, 0x399]), (0x1f96, [0x1f2e, 0x399]),
   (0x1f97, [0x1f2f, 0x399]), (0x1f98, [0x1f28, 0x399]), (0x1f99, [0x1f29, 0x399]),
   (0x1f9a, [0x1f2a, 0x399]), (0x1f9b, [0x1f2b, 0x399]), (0x1f9c, [0x1f2c, 0x399]),
   (0x1f9d, [0x1f2d, 0x399]), (0x1f9e, [0x1f2e, 0x399]), (0x1f9f, [0x1f2f, 0x399]),
   (0x1fa0, [0x1f68, 0x399]), (0x1fa1, [0x1f69, 0x399]), (0x1fa2, [0x1f6a, 0x399]),
   (0x1fa3, [0x1f6b, 0x399]), (0x1fa4, [0x1f6c, 0x399]), (0x1fa5, [0x1f6d, 0x399]),
   (0x1fa6, [0x1f6e, 0x399]), (0x1fa7, [0x1f6f, 0x399]), (0x1fa8, [0x1f68, 0x399]),
   (0x1fa9, [0x1f69, 0x399]), (0x1faa, [0x1f6a, 0x399]), (0x1fab, [0x1f6b, 0x399]),
   (0x1fac, [0x1f6c, 0x399]), (0x1fad, [0x1f6d, 0x399]), (0x1fae, [0x1f6e, 0x399]),
   (0x1faf, [0x1f6f, 0x399]), (0x1fb2, [0x1fba, 0x399]), (0x1fb3, [0x391, 0x399]),
   (0x1fb4, [0x386, 0x399]), (0x1fb6, [0x391, 0x342]), (0x1fb7, [0x391, 0x342, 0x399]),
   (0x1fbc, [0x391, 0x399]), (0x1fc2, [0x1fca, 0x399]), (0x1fc3, [0x397, 0x399]),
   (0x1fc4, [0x389, 0x399]), (0x1fc6, [0x397, 0x342]), (0x1fc7, [0x397, 0x342, 0x399]),
   (0x1fcc, [0x397, 0x399]), (0x1fd2, [0x399, 0x308, 0x300]), (0x1fd3, [0x399, 0x308, 0x301]),
   (0x1fd6, [0x399, 0x342]), (0x1fd7, [0x399, 0x308, 0x342]), (0x1fe2, [0x3a5, 0x308, 0x300]),
   (0x1fe3, [0x3a5, 0x308, 0x301]), (0x1fe4, [0x3a1, 0x313]), (0x1fe6, [0x3a5, 0x342]),
   (0x1fe7, [0x3a5, 0x308, 0x342]), (0x1ff2, [0x1ffa, 0x399]), (0x1ff3, [0x3a9, 0x399]),
   (0x1ff4, [0x38f, 0x399]), (0x1ff6, [0x3a9, 0x342]), (0x1ff7, [0x3a9, 0x342, 0x399]),
   (0x1ffc, [0x3a9, 0x399]), (0xfb00, [0x46, 0x46]), (0xfb01, [0x46, 0x49]),
   (0xfb02, [0x46, 0x4c]), (0xfb03, [0x46, 0x46, 0x49]), (0xfb04, [0x46, 0x46, 0x4c]),
   (0xfb05, [0x53, 0x54]), (0xfb06, [0x53, 0x54]), (0xfb13, [0x544, 0x546]),
   (0xfb14, [0x544, 0x535]), (0xfb15, [0x544, 0x53b]), (0xfb16, [0x54e, 0x546]),
   (0xfb17, [0x544, 0x53d])]

end RefViewer.Unicode.CaseTable
