import Speedup.Unicode.Property

/-!
# Case folding

Characters that differ only in case have the same simple case folding. Most of them come in pairs,
and pairs at equal distances in runs; the other sets are listed.
-/

namespace Speedup.Unicode

/-- Runs of pairs: the first character, the distance to its other case and, of a run of several
pairs, their number and the distance between them. -/
def casePairs : List String := [
  "41.20.a.1 4c.20.7.1 54.20.7.1 c0.20.5.1 c6.20.11.1 d8.20.7.1 df.1dbf ff.79 100.1.18.2",
  "132.1.3.2 139.1.8.2 14a.1.17.2 179.1.3.2 180.c3 181.d2 182.1.2.2 186.ce 187.1 189.cd.2.1",
  "18b.1 18e.4f 18f.ca 190.cb 191.1 193.cd 194.cf 195.61 196.d3 197.d1 198.1 19a.a3 19c.d3",
  "19d.d5 19e.82 19f.d6 1a0.1.3.2 1a6.da 1a7.1 1a9.da 1ac.1 1ae.da 1af.1 1b1.d9.2.1",
  "1b3.1.2.2 1b7.db 1b8.1 1bc.1 1bf.38 1cd.1.8.2 1de.1.9.2 1f4.1 1f8.1.14.2 222.1.9.2",
  "23a.2a2b 23b.1 23e.2a28 23f.2a3f.2.1 241.1 244.45 245.47 246.1.5.2 250.2a1f 251.2a1c",
  "252.2a1e 25c.a54f 261.a54b 265.a528 266.a544 26a.a544 26b.29f7 26c.a541 271.29fd",
  "27d.29e7 282.a543 287.a52a 29d.a515 29e.a512 370.1.2.2 376.1 37b.82.3.1 37f.74 386.26",
  "388.25.3.1 38c.40 38e.3f.2.1 391.20.2.2 394.20.2.2 397.20 39b.20.2.2 39e.20.2.1",
  "3a4.20.2.1 3a7.20.2.1 3aa.20.2.1 3cf.8 3d8.1.c.2 3f2.7 3f7.1 3fa.1 400.50.10.1",
  "410.20.2.1 413.20.2.2 416.20.8.1 41f.20.2.1 423.20.7.1 42b.20.5.1 460.1 464.1.f.2",
  "48a.1.1b.2 4c0.f 4c1.1.7.2 4d0.1.30.2 531.30.26.1 10a0.1c60.26.1 10c7.1c60 10cd.1c60",
  "10d0.bc0.2b.1 10fd.bc0.3.1 13a0.97d0.50.1 13f0.8.6.1 1d79.8a04 1d7d.ee6 1d8e.8a38",
  "1e00.1.30.2 1e62.1.1a.2 1ea0.1.30.2 1f00.8.8.1 1f10.8.6.1 1f20.8.8.1 1f30.8.8.1",
  "1f40.8.6.1 1f51.8.4.2 1f60.8.8.1 1f70.4a.2.1 1f72.56.4.1 1f76.64.2.1 1f78.80.2.1",
  "1f7a.70.2.1 1f7c.7e.2.1 1f80.8.8.1 1f90.8.8.1 1fa0.8.8.1 1fb0.8.2.1 1fb3.9 1fc3.9",
  "1fd0.8.2.1 1fe0.8.2.1 1fe5.7 1ff3.9 2132.1c 2160.10.10.1 2183.1 24b6.1a.1a.1",
  "2c00.30.30.1 2c60.1 2c67.1.3.2 2c72.1 2c75.1 2c80.1.32.2 2ceb.1.2.2 2cf2.1 a640.1.5.2",
  "a64c.1.11.2 a680.1.e.2 a722.1.7.2 a732.1.1f.2 a779.1.2.2 a77e.1.5.2 a78b.1 a790.1.2.2",
  "a794.30 a796.1.a.2 a7b3.3a0 a7b4.1.8.2 a7c7.1.2.2 a7d0.1 a7d6.1.2.2 a7f5.1 ff21.20.1a.1",
  "10400.28.28.1 104b0.28.24.1 10570.27.b.1 1057c.27.f.1 1058c.27.7.1 10594.27.2.1",
  "10c80.40.33.1 118a0.20.20.1 16e40.20.20.1 1e900.22.22.1"]

def caseSets : List String := [
  "4b.6b.212a 53.73.17f c5.e5.212b 1c4.1c5.1c6 1c7.1c8.1c9 1ca.1cb.1cc 1f1.1f2.1f3",
  "392.3b2.3d0 395.3b5.3f5 398.3b8.3d1.3f4 345.399.3b9.1fbe 39a.3ba.3f0 b5.39c.3bc",
  "3a0.3c0.3d6 3a1.3c1.3f1 3a3.3c2.3c3 3a6.3c6.3d5 3a9.3c9.2126 412.432.1c80 414.434.1c81",
  "41e.43e.1c82 421.441.1c83 422.442.1c84.1c85 42a.44a.1c86 462.463.1c87 1e60.1e61.1e9b",
  "1c88.a64a.a64b"]

end Speedup.Unicode
