import Speedup.Unicode.Property

/-!
# Binary properties

Properties that a character has or has not. The names are written without case, blanks and
underscores.
-/

namespace Speedup.Unicode

def binaryProperties : List Property := [
  ⟨["ahex", "asciihexdigit"], [
    "30.a 7.6 1a.6"]⟩,
  ⟨["alpha", "alphabetic"], [
    "41.1a 6.1a 2f a 4 5.17 1.1f 1.1ca 4.c e.5 7 1 56 2a.5 1.2 2.4 1 6 1.3 1 1.14 1.53 1.8b",
    "8.a6 1.26 2 6.29 27.e 1 1.2 1.2 1 8.1b 4.4 1d.b 5.38 1.7 e.66 1.8 4.8 4.3 a.3 2 10.30",
    "d.65 18.21 9.2 4 5.18 2.13 13.19 7.b 5.18 1.6 11.2a a.c 3.7 6.4c 1.10 1.3 4.f d.13 1.8",
    "2.2 2.16 1.7 1 3.4 3.8 2.2 2.2 1 8 4.2 1.5 c.2 a 4.3 1.6 4.2 2.16 1.7 1.2 1.2 1.2 4.5",
    "4.2 2.2 4 7.4 1 11.6 b.3 1.9 1.3 1.16 1.7 1.2 1.5 3.9 1.3 1.2 3 f.4 15.4 4.3 1.8 2.2",
    "2.16 1.7 1.2 1.5 3.8 2.2 2.2 9.2 4.2 1.5 d 10.2 1.6 3.3 1.4 3.2 1 1.2 3.2 3.3 3.c 4.5",
    "3.3 1.3 3 6 28.d 1.3 1.17 1.10 3.8 1.3 1.3 8.2 1.3 2 2.4 1c.4 1.8 1.3 1.17 1.a 1.5 3.8",
    "1.3 1.3 8.2 6.2 1.4 d.3 c.d 1.3 1.29 2.8 1.3 1.3 1 5.4 7.5 16.6 1.3 1.12 3.18 1.9 1",
    "2.7 8.6 1 1.8 12.2 d.3a 5.7 6 33.2 1 1.5 1.18 1 1.13 1.3 2.5 1 6 e.4 20 3f.8 1.24 4.13",
    "4.10 1.24 43.37 1 2.5 10.40 a.4 2.26 1 5 2.2b 1.14d 1.4 2.7 1 1.4 2.29 1.4 2.21 1.4",
    "2.7 1 1.4 2.f 1.39 1.4 2.43 25.10 10.56 2.6 3.26c 2.11 1.1a 5.4b 3.b 7.14 b.15 c.14",
    "c.d 1.3 1.2 c.34 2.13 e 4 43.59 7.2b 5.46 a.1f 1.c 4.9 17.1e 2.5 b.2c 4.1a 36.1c 4.3f",
    "2.14 32 17.2 b.3 31.34 1.f 1.8 33.2a 2.4 a.2c 1.b e.37 16.3 a.24 2.9 7.2b 2.3 29.4 1.6",
    "1.2 3 5.c0 27.e b.116 2.6 2.26 2.6 2.8 1 1 1 1.1f 2.35 1.7 1 3.3 1.7 3.4 2.6 4.d 5.3",
    "1.7 74 d 10.d 65 4 2.a 1 3.5 6 1 1 1.4 1.b 2.4 5.5 4 11.29 32d.34 716.e5 6.4 3.2 c.26",
    "1 5 2.38 7 10.17 9.7 1.7 1.7 1.7 1.7 1.7 1.7 1.7 1.20 2f 1d5.3 19.9 7.5 2.5 4.56 6.3",
    "1.5a 1.4 5.2b 1.5e 11.20 30.10 200.19c0 40.568d 43.2e 2.10d 3.10 a.2 14.2f 5.8 3.71",
    "27.9 2.67 2.40 5.2 1 1.5 18.14 1.21 18.34 c.44 1 2c.6 3 1.3 a.21 5.23 d.1d 3.33 1.c f",
    "10.10 a.5 1.37 9.e 12.17 3.45 1 1 18.3 2.10 2.4 b.6 2.6 2.6 9.7 1.7 1.2b 1.e 6.7b",
    "15.2ba4 c.17 4.31 2104.16e 2.6a 26.7 c.5 5.c 1.d 1.5 1 1.2 1.2 1.6c 21.16b 12.40 2.36",
    "28.c 74.5 1.87 24.1a 6.1a b.59 3.6 2.6 2.6 2.3 23.c 1.1a 1.13 1.2 1.f 2.e 22.7b 45.35",
    "10b.1d 3.31 2f.20 d.1e 5.2b 5.1e 2.24 4.8 1.5 2a.9e 12.24 4.24 4.28 8.34 c.b 1.f 1.7",
    "1.2 1.b 1.f 1.7 1.2 43.137 9.16 a.8 18.6 1.2a 1.9 45.6 2 1.2c 1.2 3 2.17 a.17 9.1f",
    "41.13 1.2 a.16 a.1a 46.38 6.2 40.4 1.2 5.8 1.3 1.1d 2a.1d 3.1d 23.8 1.1c 1b.36 a.16",
    "a.13 d.12 6e.49 37.33 d.33 d.28 158.2a 1.2 3.2 4e.1d a 8.16 2a.12 2e.15 1b.17 9.46",
    "2b.5 a.39 9 d.19 17.33 11.4 8.23 3 9.40 1.4 9.2 a 1 23.12 1.22 2 6.4 3e.7 1 1.4 1.f",
    "1.a 7.39 17.4 1.8 2.2 2.16 1.7 1.2 1.5 3.8 2.2 2.2 3 6 5.7 9c.42 1.3 1.4 14.3 1e.42",
    "2.2 1 b8.36 2.7 19.6 22.3f 1 3 3b.36 2 47.1b 2.e 15.7 b9.39 67.40 1f.8 2 2.8 1.2 1.1e",
    "1.2 2.2 2.4 5d.8 2.2e 2.6 1 1.2 1b.33 2.a 11.48 5 12.49 107.9 1.2d 1.7 1 31.1e 2.16",
    "1.e 49.7 1.2 1.2c 3 1.2 1.3 1 2.2 18.6 1.2 1.25 1.2 1.4 1 147.17 9.11 1.29 3.3 6f",
    "4f.39a 66.6f 11.c4 a4c.61 f.430 11.6 fb9.247 21b9.239 7.1f 11.4f 11.1e 12.30 10.4",
    "1f.15 5.13 2b0.40 80.4b 4.39 7.11 40.2 1 c.2 e.17f8 8.4d6 2a.9 22e7.4 1.7 1.2 1.123 f",
    "1d.3 2 e.4 8.18c 904.6b 5.d 3.9 7.a 4 1761.55 1.47 1.2 2 2.2 2.4 1.c 1 1.7 1.41 1.4",
    "2.8 1.7 1.1c 1.4 1.5 1 3.7 1.154 2.19 1.19 1.1f 1.19 1.1f 1.19 1.1f 1.19 1.1f 1.19 1.8",
    "734.1f 6.6 d5.7 1.11 2.7 1.2 1.5 5.3e 21 70.2d a.7 10 141.1e 12.2c 1e4.1c 2f4.7 1.4",
    "1.2 1.f 1.c5 3b.44 3 3 4b4.4 1.1b 1.2 1 2 1.a 1.4 1 1 6 4 1 1 1.3 1.2 1 2 1 1 1 1 1.2",
    "1 2.4 1.7 1.4 1.4 1 1.a 1.11 5.3 1.5 1.11 274.1a 6.1a 6.1a e76.a6e0 20.103a 6.de",
    "2.1682 e.1d31 c1f.21e 5e2.134b 5.1060"]⟩,
  ⟨["bidic", "bidicontrol"], [
    "61c 19f1.2 1a.5 37.4"]⟩,
  ⟨["bidim", "bidimirrored"], [
    "28.2 12 1 1c 1 1d 1 2d f e7e.4 75d.2 99c.2 a.2 36.2 e.2 b1 c0.4 3.6 3 3.2 3.4 1.4 1 1",
    "4.9 5 1.12 5.4 9.2 1 1.8 2.1f 2.4 5 9.2 2.13 5.2 9.5 2.2 4.18 2.10 8.4 14.2 7.2 43d.e",
    "4a 2.4 1.2 1.3 5.4 5.3 3.e 193.16 2.6 1.e 8 7.6 3 4.5 1.2 2.5 4 1.3 2.2 a.6 2.2 c.13",
    "1.4 2 1 2 1.4 5.2 6.3 18.2 b.2 4.4 1.2 2.2 4.2b 2.8 1.28 5 1 3.5 5.3 4 3.5 1 100 203.4",
    "3.2 1.2 e.2 2.a 2b.8 1ab.a 2.8 ce3d.6 5.2 a2.2 12 1 1c 1 1d 1 1.2 1.2 d777 39 39 39 39"]⟩,
  ⟨["ci", "caseignorable"], [
    "27 6 b 23 1 47 4 1 4 2.2 1f7.c0 4.2 4 9.2 1 fb.7 cf 5 31.2d 1 1.2 1.2 1 2c b.6 a.b 1",
    "23 a.15 10 65.8 1.a 1.4 21 1 1e.1b 5b.b 3a.b 4 2 18.18 2b.3 2c 7.2 6.8 29.3a 37 1 4.8",
    "4 3.7 a.2 d f 3a 4.4 8 14.2 1a 2.2 39 4.2 4.2 2.3 3 1e.2 3 b.2 39 4.5 1.2 4 14.2 16.6",
    "1 3a 2 1.4 8 7.2 b.2 1e 3d c 32 3 37 1.3 5.3 1.4 7.2 b.2 1d 3a 2 6 5.2 14.2 1c.2 39.2",
    "4.4 8 14.2 1d 48 7.3 1 5a 2.7 b.9 62 2.9 9 1.7 49.2 1b 1 1 37.e 1.5 1.2 5.b 1.24 9",
    "66.4 1.6 1.2 2.2 19.2 4.3 10.4 d 2.2 6 f 5e 260.3 3b2.3 1d.2 1e.2 1e.2 40.2 1.7 8 2.b",
    "3 5 2d.5 33 41.2 22 76.3 4.2 9 6.3 db.2 2 3a 1.7 1 1 2.8 6.a 2 27 8.1f 31.4 30 1.5 1 5",
    "28.9 c.2 20.4 2.2 1.3 38 1.2 3 1.3 3a.8 2.2 40.6 52.3 1.d 1.7 4 6 3.2 32.3f d 22.65",
    "1bd 1.3 b.3 d.3 d.3 d.2 c.5 8.2 a 2 2.5 31.5 1.a 1 d 10.d 33.21 b8b.2 71.3 7d f 60.20",
    "2f 1d5 24.4 3.5 5 5d.6 5d.3 6f16 4e2.6 10e 62.4 1.a 1 1c.4 50.2 e.22 4e 17.3 67.3 3.2",
    "8 3 4 19.2 5 97.2 1a.12 d 26.8 19.b 2e.3 30 2.4 2.2 11 15.2 42.6 2.2 2.2 c 8 23 b 33",
    "1.3 2.2 5.2 1 1b e.2 5.2 1 64.5 9.3 79 2 4 4f30 93.11 23d.10 3 c.10 22 2 a9 7 6 b 23 1",
    "2f 2d.2 43 15.3 201 e2 95.5 405.6 1.2a 1.9 246.3 1.2 5.4 28.3 4 a5.2 23d.4 183.2 50.3",
    "46.b 31.4 7b 36.f 29 2.2 a.3 31.4 2.2 2 4 a 32.3 24.5 1.8 3e c.2 34.9 a.4 2 5f.3 2 1.2",
    "6 2 9d 3.8 15.2 39.2 3 25.7 3.5 c3.8 2.3 1 17 54.6 1 4.2 1.2 ee.4 6.2 1.2 1b.2 55.8 2",
    "1.2 6a 1 2.6 1 65.3 2.4 1.5 103.9 1.2 100.2 1 4 90.4 2.2 4 20.a 28.6 2.4 8 9.6 2.3",
    "2e.d 1.2 196.7 1.6 1 52.16 2.7 1.2 1.2 7a.6 3 1.2 1.7 1 48.2 3 1 15b.2 b.2 34.5 5 1",
    "14ed.11 6.f 369a.5 3b.7 9.4 40b 3f.11 40.2 1.2 400b.4 1.7 1.2 c9e.2 1.4 125c.2e 2.17",
    "220.3 9.10 2.7 1e.4 94.3 7bb.37 4.32 8 e 16.5 1.f 550.7 1.11 2.7 1.2 1.5 5.3e 21 a0.e",
    "170 3d.4 1fb.5 3e0.7 6d.8 aaf.5 c0c01 1e.60 80.f0"]⟩,
  ⟨["cased"], [
    "41.1a 6.1a 2f a 4 5.17 1.1f 1.c3 1.4 4.d0 1.24 7.2 1e.5 60 2a.4 2.2 2.4 1 6 1.3 1 1.14",
    "1.53 1.8b 8.a6 1.26 9.29 b17.26 1 5 2.2b 1.4 2a0.56 2.6 882.9 7.2b 2.3 40.c0 40.116",
    "2.6 2.26 2.6 2.8 1 1 1 1.1f 2.35 1.7 1 3.3 1.7 3.4 2.6 4.d 5.3 1.7 74 d 10.d 65 4 2.a",
    "1 3.5 6 1 1 1.4 1.6 4 2.4 5.5 4 11.20 3.2 331.34 716.e5 6.4 3.2 c.26 1 5 7912.2e 12.1e",
    "84.66 3.4 1.3b 5.2 1 1.5 18.5 1.3 335.2b 1.e 6.50 4f40.7 c.5 409.1a 6.1a 4a5.50 60.24",
    "4.24 74.b 1.f 1.7 1.2 1.b 1.f 1.7 1.2 1c3 2.3 1.2a 1.9 4c5.33 d.33 bad.40 5560.40",
    "6580.55 1.47 1.2 2 2.2 2.4 1.c 1 1.7 1.41 1.4 2.8 1.7 1.1c 1.4 1.5 1 3.7 1.154 2.19",
    "1.19 1.1f 1.19 1.1f 1.19 1.1f 1.19 1.1f 1.19 1.8 734.a 1.14 6.6 105.3e 892.44 7ec.1a",
    "6.1a 6.1a"]⟩,
  ⟨["cwcf", "changeswhencasefolded"], [
    "41.1a 5a a.17 1.8 20 1 1 1 1 1 1 1 1 1 1 1 1 1 1 1 1 1 1 1 1 1 1 1 1 1 1 1 2 1 1 1 1 1",
    "1 1 1.2 1 1 1 1 1 1 1 1 1 1 1 1 1 1 1 1 1 1 1 1 1 1 1.2 1 1 1 1.2 1 1.2 1.3 2.4 1.2",
    "1.3 3.2 1.2 1 1 1.2 1 2 1.2 1.3 1 1.2 3 7.2 1.2 1.2 1 1 1 1 1 1 1 1 2 1 1 1 1 1 1 1 1",
    "2.2 1 1.3 1 1 1 1 1 1 1 1 1 1 1 1 1 1 1 1 1 1 1 1 1 1 1 1 1 1 1 1 1 7.2 1.2 2 1.4 1 1",
    "1 1 f6 2a 1 3 8 6 1.3 1 1.2 1.11 1.9 16 c.3 3.2 1 1 1 1 1 1 1 1 1 1 1 1 1.2 2.2 1 1.2",
    "2.33 30 1 1 1 1 1 1 1 1 1 1 1 1 1 1 1 1 9 1 1 1 1 1 1 1 1 1 1 1 1 1 1 1 1 1 1 1 1 1 1",
    "1 1 1 1 1.2 1 1 1 1 1 1 2 1 1 1 1 1 1 1 1 1 1 1 1 1 1 1 1 1 1 1 1 1 1 1 1 1 1 1 1 1 1",
    "1 1 1 1 1 1 1 1 1 1 1 1 1 1 1 1 1 2.26 30 b18.26 1 5 32a.6 882.9 7.2b 2.3 140 1 1 1 1",
    "1 1 1 1 1 1 1 1 1 1 1 1 1 1 1 1 1 1 1 1 1 1 1 1 1 1 1 1 1 1 1 1 1 1 1 1 1 1 1 1 1 1 1",
    "1 1 1 1 1 1 1 1 1 1 1 1 1 1 1 1 1 1 1 1 1 1 1 1 1 1 1 5.2 2 1 1 1 1 1 1 1 1 1 1 1 1 1",
    "1 1 1 1 1 1 1 1 1 1 1 1 1 1 1 1 1 1 1 1 1 1 1 1 1 1 1 1 1 1 1 1 1 1 1 9.8 8.6 a.8 8.8",
    "8.6 b 1 1 1 8.8 10.30 2.3 2.6 5.3 2.6 b.4 c.5 5.3 2.6 129 3.2 6 2d.10 13 332.1a 730.30",
    "30 1.3 2 1 1 1.4 1 2 8.3 1 1 1 1 1 1 1 1 1 1 1 1 1 1 1 1 1 1 1 1 1 1 1 1 1 1 1 1 1 1 1",
    "1 1 1 1 1 1 1 1 1 1 1 1 1 1 1 1 1 1 8 1 4 794d 1 1 1 1 1 1 1 1 1 1 1 1 1 1 1 1 1 1 1 1",
    "1 1 13 1 1 1 1 1 1 1 1 1 1 1 1 1 87 1 1 1 1 1 1 3 1 1 1 1 1 1 1 1 1 1 1 1 1 1 1 1 1 1",
    "1 1 1 1 1 1 1 1 1 1 1 1 a 1 1.2 1 1 1 1 4 1 2 1 3 1 1 1 1 1 1 1 1 1 1.5 1.5 1 1 1 1 1",
    "1 1 1.4 1 6 5 1 1c 37a.50 4f40.7 c.5 409.1a 4c5.28 88.24 9c.b 1.f 1.7 1.2 6ea.33",
    "bed.20 5580.20 7aa0.22"]⟩,
  ⟨["cwcm", "changeswhencasemapped"], [
    "41.1a 6.1a 3a a.17 1.1f 1.40 1.54 1.d 1.e 2.e 2.2 1 4.5d 1.12 6.1b 1.2 1 1.2 3.2 1 1.2",
    "1.5 2 1.2 2 7 2 1.2 3.6 5 a.2 a6 2a.4 2.2 3.3 1 6 1.3 1 1.14 1.2f 3.21 1.5 1.85 8.a6",
    "1.26 a.27 b18.26 1 5 2.2b 2.3 2a0.56 2.6 882.9 7.2b 2.3 b9 3 10 71.9c 2 1.76 2.6 2.26",
    "2.6 2.8 1 1 1 1.1f 2.35 1.7 1 3.3 1.7 3.4 2.6 4.d 5.3 1.7 129 3.2 6 1b 11.20 3.2",
    "331.34 716.71 1.2 1.2 7.66 7.4 3.2 c.26 1 5 7912.2e 12.1c 86.e 2.3e 9.f 3.3 2.5 1.19",
    "1.1b 5.2 4.4 1b.2 35c 1c.50 4f40.7 c.5 409.1a 6.1a 4a5.50 60.24 4.24 74.b 1.f 1.7 1.2",
    "1.b 1.f 1.7 1.2 6c3.33 d.33 bad.40 5560.40 7a80.44"]⟩,
  ⟨["cwl", "changeswhenlowercased"], [
    "41.1a 65.17 1.7 21 1 1 1 1 1 1 1 1 1 1 1 1 1 1 1 1 1 1 1 1 1 1 1 1 1 1 1 2 1 1 1 1 1 1",
    "1 2 1 1 1 1 1 1 1 1 1 1 1 1 1 1 1 1 1 1 1 1 1 1 1.2 1 1 3.2 1 1.2 1.3 2.4 1.2 1.3 3.2",
    "1.2 1 1 1.2 1 2 1.2 1.3 1 1.2 3 7.2 1.2 1.2 1 1 1 1 1 1 1 1 2 1 1 1 1 1 1 1 1 2.2 1",
    "1.3 1 1 1 1 1 1 1 1 1 1 1 1 1 1 1 1 1 1 1 1 1 1 1 1 1 1 1 1 1 7.2 1.2 2 1.4 1 1 1 1",
    "121 1 3 8 6 1.3 1 1.2 1.11 1.9 23 8 1 1 1 1 1 1 1 1 1 1 1 5 2 1.2 2.33 30 1 1 1 1 1 1",
    "1 1 1 1 1 1 1 1 1 1 9 1 1 1 1 1 1 1 1 1 1 1 1 1 1 1 1 1 1 1 1 1 1 1 1 1 1 1.2 1 1 1 1",
    "1 1 2 1 1 1 1 1 1 1 1 1 1 1 1 1 1 1 1 1 1 1 1 1 1 1 1 1 1 1 1 1 1 1 1 1 1 1 1 1 1 1 1",
    "1 1 1 1 1 1 1 2.26 b49.26 1 5 2d2.56 89a.2b 2.3 140 1 1 1 1 1 1 1 1 1 1 1 1 1 1 1 1 1",
    "1 1 1 1 1 1 1 1 1 1 1 1 1 1 1 1 1 1 1 1 1 1 1 1 1 1 1 1 1 1 1 1 1 1 1 1 1 1 1 1 1 1 1",
    "1 1 1 1 1 1 1 1 1 1 1 1 1 1 9 1 1 1 1 1 1 1 1 1 1 1 1 1 1 1 1 1 1 1 1 1 1 1 1 1 1 1 1",
    "1 1 1 1 1 1 1 1 1 1 1 1 1 1 1 1 1 1 1 1 9.8 8.6 a.8 8.8 8.6 b 1 1 1 8.8 18.8 8.8 8.8",
    "8.5 b.5 b.4 c.5 b.5 129 3.2 6 2d.10 13 332.1a 730.30 30 1.3 2 1 1 1.4 1 2 8.3 1 1 1 1",
    "1 1 1 1 1 1 1 1 1 1 1 1 1 1 1 1 1 1 1 1 1 1 1 1 1 1 1 1 1 1 1 1 1 1 1 1 1 1 1 1 1 1 1",
    "1 1 8 1 4 794d 1 1 1 1 1 1 1 1 1 1 1 1 1 1 1 1 1 1 1 1 1 1 13 1 1 1 1 1 1 1 1 1 1 1 1",
    "1 87 1 1 1 1 1 1 3 1 1 1 1 1 1 1 1 1 1 1 1 1 1 1 1 1 1 1 1 1 1 1 1 1 1 1 1 1 1 a 1 1.2",
    "1 1 1 1 4 1 2 1 3 1 1 1 1 1 1 1 1 1 1.5 1.5 1 1 1 1 1 1 1 1.4 1 6 5 1 1c 572b.1a",
    "4c5.28 88.24 9c.b 1.f 1.7 1.2 6ea.33 bed.20 5580.20 7aa0.22"]⟩,
  ⟨["cwt", "changeswhentitlecased"], [
    "61.1a 3a 29.18 1.8 1 1 1 1 1 1 1 1 1 1 1 1 1 1 1 1 1 1 1 1 1 1 1 1 1 1 1 1 2 1 1 1 1 1",
    "1 1.2 1 1 1 1 1 1 1 1 1 1 1 1 1 1 1 1 1 1 1 1 1 1 1 2 1 1.3 2 1 2 3 5 2 3.2 3 2 1 1 2",
    "4 2 3 1 2 3 1 4 1.2 1.2 1 1 1 1 1 1 1 1 1.2 1 1 1 1 1 1 1 1 1.3 1 1 3 1 1 1 1 1 1 1 1",
    "1 1 1 1 1 1 1 1 1 1 1 3 1 1 1 1 1 1 1 1 8 2.2 1 4 1 1 1 1.6 1.2 1 1.2 3.2 1 1.2 1.5 2",
    "1.2 2 7 2 1.2 3.6 5 a.2 a6 2b 1 3 3.3 12 1b.23 1.2 3.3 1 1 1 1 1 1 1 1 1 1 1 1.5 1 2 2",
    "34.30 1 1 1 1 1 1 1 1 1 1 1 1 1 1 1 1 1 9 1 1 1 1 1 1 1 1 1 1 1 1 1 1 1 1 1 1 1 1 1 1",
    "1 1 1 1 2 1 1 1 1 1 1.2 1 1 1 1 1 1 1 1 1 1 1 1 1 1 1 1 1 1 1 1 1 1 1 1 1 1 1 1 1 1 1",
    "1 1 1 1 1 1 1 1 1 1 1 1 1 1 1 1 1 31.27 e70.6 882.9 f0 3 10 72 1 1 1 1 1 1 1 1 1 1 1 1",
    "1 1 1 1 1 1 1 1 1 1 1 1 1 1 1 1 1 1 1 1 1 1 1 1 1 1 1 1 1 1 1 1 1 1 1 1 1 1 1 1 1 1 1",
    "1 1 1 1 1 1 1 1 1 1 1 1 1 1 1 1 1 1 1.7 5 1 1 1 1 1 1 1 1 1 1 1 1 1 1 1 1 1 1 1 1 1 1",
    "1 1 1 1 1 1 1 1 1 1 1 1 1 1 1 1 1 1 1 1 1 1 1 1 1.9 8.6 a.8 8.8 8.6 a.8 8.8 8.e 2.8",
    "8.8 8.8 8.5 1.2 6 3.3 1.2 8.4 2.2 8.8 a.3 1.2 156 21.10 4 34b.1a 746.30 1 3.2 1 1 1 6",
    "2 a 1 1 1 1 1 1 1 1 1 1 1 1 1 1 1 1 1 1 1 1 1 1 1 1 1 1 1 1 1 1 1 1 1 1 1 1 1 1 1 1 1",
    "1 1 1 1 1 1 1 1 8 1 4 c.26 1 5 7913 1 1 1 1 1 1 1 1 1 1 1 1 1 1 1 1 1 1 1 1 1 1 13 1 1",
    "1 1 1 1 1 1 1 1 1 1 1 87 1 1 1 1 1 1 3 1 1 1 1 1 1 1 1 1 1 1 1 1 1 1 1 1 1 1 1 1 1 1 1",
    "1 1 1 1 1 1 a 1 2 1 1 1 1 4 4 1.2 2 1 1 1 1 1 1 1 1 1 b 1 1 1 1 1 1 1 4 1 6 5 1 1c 35c",
    "1c.50 4f40.7 c.5 429.1a 4cd.28 88.24 9b.b 1.f 1.7 1.2 703.33 bcd.20 5580.20 7aa2.22"]⟩,
  ⟨["cwu", "changeswhenuppercased"], [
    "61.1a 3a 29.18 1.8 1 1 1 1 1 1 1 1 1 1 1 1 1 1 1 1 1 1 1 1 1 1 1 1 1 1 1 1 2 1 1 1 1 1",
    "1 1.2 1 1 1 1 1 1 1 1 1 1 1 1 1 1 1 1 1 1 1 1 1 1 1 2 1 1.3 2 1 2 3 5 2 3.2 3 2 1 1 2",
    "4 2 3 1 2 3 1 5.2 1.2 1.2 1 1 1 1 1 1 1 1.2 1 1 1 1 1 1 1 1 1.2 1.2 1 3 1 1 1 1 1 1 1",
    "1 1 1 1 1 1 1 1 1 1 1 1 3 1 1 1 1 1 1 1 1 8 2.2 1 4 1 1 1 1.6 1.2 1 1.2 3.2 1 1.2 1.5",
    "2 1.2 2 7 2 1.2 3.6 5 a.2 a6 2b 1 3 3.3 12 1b.23 1.2 3.3 1 1 1 1 1 1 1 1 1 1 1 1.5 1 2",
    "2 34.30 1 1 1 1 1 1 1 1 1 1 1 1 1 1 1 1 1 9 1 1 1 1 1 1 1 1 1 1 1 1 1 1 1 1 1 1 1 1 1",
    "1 1 1 1 1 2 1 1 1 1 1 1.2 1 1 1 1 1 1 1 1 1 1 1 1 1 1 1 1 1 1 1 1 1 1 1 1 1 1 1 1 1 1",
    "1 1 1 1 1 1 1 1 1 1 1 1 1 1 1 1 1 1 31.27 b48.2b 2.3 2f8.6 882.9 f0 3 10 72 1 1 1 1 1",
    "1 1 1 1 1 1 1 1 1 1 1 1 1 1 1 1 1 1 1 1 1 1 1 1 1 1 1 1 1 1 1 1 1 1 1 1 1 1 1 1 1 1 1",
    "1 1 1 1 1 1 1 1 1 1 1 1 1 1 1 1 1 1 1 1 1 1 1 1 1 1.7 5 1 1 1 1 1 1 1 1 1 1 1 1 1 1 1",
    "1 1 1 1 1 1 1 1 1 1 1 1 1 1 1 1 1 1 1 1 1 1 1 1 1 1 1 1 1 1 1 1.9 8.6 a.8 8.8 8.6 a.8",
    "8.8 8.e 2.35 1.2 4 1 3.3 1.2 4 3.4 2.2 8.8 a.3 1.2 4 151 21.10 4 34b.1a 746.30 1 3.2 1",
    "1 1 6 2 a 1 1 1 1 1 1 1 1 1 1 1 1 1 1 1 1 1 1 1 1 1 1 1 1 1 1 1 1 1 1 1 1 1 1 1 1 1 1",
    "1 1 1 1 1 1 1 1 1 1 1 8 1 4 c.26 1 5 7913 1 1 1 1 1 1 1 1 1 1 1 1 1 1 1 1 1 1 1 1 1 1",
    "13 1 1 1 1 1 1 1 1 1 1 1 1 1 87 1 1 1 1 1 1 3 1 1 1 1 1 1 1 1 1 1 1 1 1 1 1 1 1 1 1 1",
    "1 1 1 1 1 1 1 1 1 1 a 1 2 1 1 1 1 4 4 1.2 2 1 1 1 1 1 1 1 1 1 b 1 1 1 1 1 1 1 4 1 6 5",
    "1 1c 35c 1c.50 4f40.7 c.5 429.1a 4cd.28 88.24 9b.b 1.f 1.7 1.2 703.33 bcd.20 5580.20",
    "7aa2.22"]⟩,
  ⟨["dash"], [
    "2d 55c 33 e41 405 809.6 3d 27 f 186 c04 2 1f.2 4 1c 1be 13 6f cd90.2 25 a a9 f9f"]⟩,
  ⟨["di", "defaultignorablecodepoint"], [
    "ad 2a1 2cc b42.2 653.2 55.5 7fb.5 1a.5 31.10 10f4 cc9b.10 ef a0 4f.9 bca7.4 14cf.8",
    "c2e85.1000"]⟩,
  ⟨["dep", "deprecated"], [
    "149 529 903 1 829.2 8c5.6 2b9.2 ddcd6"]⟩,
  ⟨["dia", "diacritic"], [
    "5e 1 47 6 4 2.2 1f7.9f 1.8 5.6 11.2 4 9.2 fd.5 d1 37.11 1.1b 1 1.2 1 86.8 4.2 86.2 4.2",
    "3.3 43.1b 5b.b 3a.b 22.2 7e.8 29.a 10.1c 3d 10 3.4 1c 4a 10 6e 10 6e 10 2f.3 3c 10 7",
    "77 6e 10 6e 10 6d.2 10 7c 7c.6 1 6b d.5 4b.2 1b 1 1 4.2 42.3 1.2 3e 70 1.2 28.2 4.5",
    "19.7 1 a.2 2c1.3 3b4.2 b3.b 9 15b.3 139.8 2 30.f 2.b 68 f 26.9 36.2 8a.2 40.6 52.19 4",
    "6 2.3 32.3f 59.c 25.b 1bd 1.3 b.3 d.3 d.3 d.2 cf0.3 13d 1fa.6 69.4 5f 7572 c.2 1 1c.2",
    "52.2 e.22 66.3 6d.2 ca 1b.12 39.4 24 5f c 24 95.3 41.4 33 64.5 9.3 80.2 4f30 301.10",
    "10e 1 2f 2d.2 43 2fc 49f.6 1.2a 1.9 32a.2 23b.6 1d5.3 46.b 31.4 c0 29 48.2 78.2 3e 4c",
    "9.3 68.2 b2.2 51 10 18.7 3.5 cd 3 7b.2 fb.2 7e 76.2 73 10d.2 102.2 4 9c 53 12 51 1a5",
    "102 1.2 51 16af.f 369a.5 3b.7 458.11 50.2 3ffe.4 1.7 1.2 1f01.2e 2.17 220.3 3.6 8.8",
    "2.7 1e.4 e82.3e c2.7 177 3d.4 5e0.7 6d.3 1.3"]⟩,
  ⟨["emoji"], [
    "23 6 5.a 6f 4 1f8d c d8 16 5a.6 f.2 16f.2 c a6 19.b 4.3 c7 e7.2 a 9 3a.4 1.5 9 2 2.2 2",
    "4 2 1.2 2 3 3.2 8.3 5 1 5.c b.2 2 1.2 1 12 2.2 12.6 1 1.2 3.2 5 2.2 4.2 b.2 5.2 2 5.2",
    "1 1.2 14.2 5.6 1.4 2 4 2 2.6 1 2 1 1 6 3 6 a.2 f 2 4 1 4.3 1 b.2 30.3 9 e e 174.2",
    "1cf.3 13.2 33 4 4da c 259 1 1bd6a ca a0.2 c.2 e 2.a 4b.1a 1.2 17 14 2.9 15.2 ae.22",
    "2.70 2.2 1.3 2.53 2.3 1.107 1.3f b.6 1.18 7.2 2.8 c 2.4 2 4.2 d.2 2 8.2 9 5.3 c.3 8.3",
    "2 1 4 6 3 6.56 30.46 5.8 2.3 4.a 3 1.2 3 2.a e3.c 4 11b.2f 1.a 1.b9 70.d 3.9 7.2e 1.7",
    "8.e 4.9 7.9"]⟩,
  ⟨["ecomp", "emojicomponent"], [
    "23 6 5.a 1fd3 d5 dd2b f3d6.1a 1fb.5 5b0.4 c066c.60"]⟩,
  ⟨["emod", "emojimodifier"], [
    "1f3fb.5"]⟩,
  ⟨["ebase", "emojimodifierbase"], [
    "261d db 10.4 1cc77 3c.3 2 2.3 75.2 2.b 15.13 3 4.3 1.3 7 1 18 c9.2 4 15 4.2 ae.3 3.5",
    "53 10.3 9 b 23f 2 8.8 6 9.a 2.3 38 3d.2 1.2 1 11.3 1.d e5.3 2a.9"]⟩,
  ⟨["epres", "emojipresentation"], [
    "231a.2 cd.4 3 2 209.2 15.2 32.c 2b 13 d 8.2 11.2 5.2 8 5 15 7.2 1 4 2 7 4.2 1c 23 1",
    "4.3 1 3d.3 18 e 35b.2 33 4 1c4ae ca be 2.a 4b.1a 1 18 14 2.5 1.3 15.2 ae.21 c.9 1.46",
    "1.16 c.2b 4.5 c.11 3 3.47 1 1.bb 2.3f d.4 1.18 12 1a.2 d 56.55 30.46 6 3.3 2.3 4.4 b.2",
    "7.9 e3.c 4 11b.2f 1.a 1.b9 70.d 3.9 7.2e 1.7 8.e 4.9 7.9"]⟩,
  ⟨["extpict", "extendedpictographic"], [
    "a9 4 1f8d c d8 16 5a.6 f.2 16f.2 c 5f 46 19.b 4.3 c7 e7.2 a 9 3a.4 1.6 1.c 1.72 a.76",
    "2.b 1 1 6 3 6 a.2 f 2 4 1 4.3 1 b.5 2d.3 9 e e 174.2 1cf.3 13.2 33 4 4da c 259 1",
    "1bd66.100 d.3 1f 3c.6 c.2 e 2.a 12.39 1b.f a 14 2.9 1.4 9.1b2 5.13e 8.10a 30.80 74.c",
    "55.2b c.4 38.8 a.6 28.8 1e.52 c.2f 1.a 1.1b9 100.3fe"]⟩,
  ⟨["ext", "extender"], [
    "b7 218.2 36e 1b9 35a 2f0 7f 943 38 263 18e 44 1389 2b.5 67.2 5d.3 6f16 5f6 3c2 16 89",
    "6c 15.2 547b 810.2 bda 268.3 4cf 50a9.2 49c.2 1 7158.2 806.3"]⟩,
  ⟨["grbase", "graphemebase"], [
    "20.5f 21.d 1.252 70.8 2.6 4.7 1 1.14 1.e0 7.a6 1.26 2.32 2.3 2e 1 2 2 9.1b 4.6 11.a b",
    "1.2e 15.10 1.65 8 6.2 2 4.20 2 1.1e 1d.59 b e.2b 9.7 3.18 4 9 3 7.f 1.19 5 1.b 5.1f",
    "11.2a 39.37 1 1.4 8.4 1.3 7.a 2.1d 1.2 1.8 2.2 2.16 1.7 1 3.4 3 1.2 6.2 2.2 1 d.2 1.3",
    "4.18 5 1.6 4.2 2.16 1.7 1.2 1.2 1.2 4.3 18.4 1 7.a 2.3 1 c 1.9 1.3 1.16 1.7 1.2 1.5",
    "3.4 8 1.2 3 f.2 4.c 7 8.2 1.8 2.2 2.16 1.7 1.2 1.5 3 2 6.2 2.2 f.2 1.3 4.12 b 1.6 3.3",
    "1.4 3.2 1 1.2 3.2 3.3 3.c 5 1.2 3.3 1.3 3 15.15 6.3 1.8 1.3 1.17 1.10 3 3.4 13.3 2 2.2",
    "4.a 7.a 1.b 1.3 1.17 1.a 1.5 3.2 1.2 1.2 2.2 1.2 11.2 1.2 4.a 1.3 e.b 1.3 1.29 2 1.2",
    "5.3 1.3 1.2 4.3 1.a 4.1a 2.2 1.12 3.18 1.9 1 2.7 9.2 6.7 7.a 2.3 c.30 1.2 b.8 8.d 25.2",
    "1 1.5 1.18 1 1.a 1.2 9 2.5 1 9.a 2.4 20.18 2.1b 1 1 1.e 1.24 12 5 2.5 31.8 1.6 1.d",
    "25.2d 4 6 2.2 2.19 2.4 3.10 4.d 1.2 2.6 1.f 1.28 1 5 2.179 1.4 2.7 1 1.4 2.29 1.4 2.21",
    "1.4 2.7 1 1.4 2.f 1.39 1.4 2.43 5.1d 3.1a 6.56 2.6 2.29d 3.59 7.12 3 9.13 2.3 9.12 e.d",
    "1.3 f.34 2 7.8 1.2 b.9 3.a 6.a 6.b 5.a 6.59 7.5 2.22 1 5.46 a.1f 4.4 2.3 4.2 1.6 7",
    "3.2a 2.5 b.2c 4.1a 6.b 3.39 2.2 3.38 1 9 1.2 8.6 d.a 6.a 6.e 56.30 7 1.5 1.a 3.1b 9.b",
    "3.20 4.2 2 3.38 1 2.3 1 3.2 8.30 8.2 5.f 3.3c 7.2b 2.b b d 7.4 1.6 1.3 2 5.c0 40.116",
    "2.6 2.26 2.6 2.8 1 1 1 1.1f 2.35 1.f 1.e 2.6 1.13 2.3 1.9 1.b 5.18 7.31 10.2 2.1b 1.d",
    "3.21 3f.8c 4.297 19.b 15.714 2.20 1.158 3.2 5.2d 1 5 2.38 7.2 f.17 9.7 1.7 1.7 1.7 1.7",
    "1.7 1.7 1.7 21.5e 22.1a 1.59 c.d6 1a.c 4.2a 6.10 1.56 4.65 5.2b 1.5e 1.54 c.2f 1.726d",
    "3.37 9.15c 14.2f 4 a.20 2.50 2.6 8.cb 5.2 1 1.5 18.10 1.3 1.4 1.19 2.5 4.a 6.38 8.44",
    "a.c 18.d 1.26 8.19 b.2 b.1e 6.30 1.2 4.2 2.10 1.b 4.7 1.19 1.29 6.2 2.2 b.3 1.8 1 2.a",
    "2.20 1.33 1 3.2 2.5 2 1 18.11 2.8 b.6 2.6 2.6 9.7 1.7 1.3c 4.75 1.2 1.4 3.a 6.2ba4",
    "c.17 4.31 2104.16e 2.6a 26.7 c.5 5 1.18 1.5 1 1.2 1.2 1.7d 10.1bd 2.36 7 20.10 10.a",
    "16.23 1.13 1.4 4.5 1.87 4.9d 2.1f 3.6 2.6 2.6 2.3 3.7 1.7 d.2 2.c 1.1a 1.13 1.2 1.f",
    "2.e 22.7b 5.3 4.2d 3.58 1.d 3 2f.2d 83.1d 3.31 10.1b 4.24 9.1e 5.26 a.1e 1.25 4.e",
    "2a.9e 2.a 6.24 4.24 4.28 8.34 b.c 1.f 1.7 1.2 1.b 1.f 1.7 1.2 43.137 9.16 a.8 18.6",
    "1.2a 1.9 45.6 2 1.2c 1.2 3 2.17 1.48 8.9 30.13 1.2 5.21 3.1b 5 40.38 4.14 2.2f f.4 1.3",
    "1.1d a.9 7.9 7.40 20.25 6.c 9.36 3.1d 2.1b 5.1a 7.4 c.7 50.49 37.33 d.33 7.2a c.a",
    "126.1f 1.2a 3 2.2 4e.28 8.16 b.9 16.12 4.4 26.1c 14.17 9 1.36 f.7 4.1e 1.2 2 c.31 4.2",
    "2.2 1.4 e.19 7.a 9.24 5 9.12 8.23 1.3 b.34 9.a 4.2 1.10 1.14 b.12 1.1c 3.2 1 2.6 1.2",
    "3f.7 1 1.4 1.f 1.b 6.2f 1.3 d.a 8.2 1.8 2.2 2.16 1.7 1.2 1.5 3 1 1.4 2.2 2.3 2 c.7",
    "9c.38 8.2 3 1.15 1 1.3 1e.30 1.2 6 1.2 1 2 2.4 8.a a6.2f 1.2 6.4 2 2.1b 24.33 8.2 1",
    "2.4 b.a 6.d 13.2b 1 1.2 6 1.2 6.a 36.1b 5.2 4 9.17 b9.2f 9 2 64.53 c.8 2 2.8 1.2 1.18",
    "1.5 1.2 4 1.4 1.3 9.a 46.8 2.2a 8.4 1.4 1b a.28 6.2 4.8 9 6.2 3.2e d 2.9 d.49 7.a f6.9",
    "1.26 e 1.6 a.1d 3.20 19 7 2 4b.7 1.2 1.26 15 9.a 6.6 1.2 1.25 4.2 1 1 7.a 136.13 2.4",
    "9.f 1.24 8.2 1 1.17 56 f.32 d.39b 66.6f 1.5 b.c4 a4c.63 d.430 11.6 fb9.247 21b9.239",
    "7.1f 1.a 4.51 1.a 6.1e 7 a.30 7.f a.a 1.7 1.15 5.13 2b0.5b 65.4b 5.38 b.d 40.4 c.2",
    "e.17f8 8.4d6 2a.9 22e7.4 1.7 1.2 1.123 f 1d.3 2 e.4 8.18c 904.6b 5.d 3.9 7.a 2 2",
    "12b0.74 3c.f6 a.27 2.3c 1 3.4 15.2 7.1e 4.3d 15.42 3 7a.14 c.14 c.57 9.19 87.55 1.47",
    "1.2 2 2.2 2.4 1.c 1 1.7 1.41 1.4 2.8 1.7 1.1c 1.4 1.5 1 3.7 1.154 2.124 2.232 37.4",
    "32.8 1.e 1.7 474.1f 6.6 105.3e 92.2d a.7 2.a 4.2 140.1e 12.2c 4.a 5 1d0.1c 4.a 2e6.7",
    "1.4 1.2 1.f 1.c5 2.9 30.44 7 4.a 4.2 311.44 4c.3d c2.4 1.1b 1.2 1 2 1.a 1.4 1 1 6 4 1",
    "1 1.3 1.2 1 2 1 1 1 1 1.2 1 2.4 1.7 1.4 1.4 1 1.a 1.11 5.3 1.5 1.11 34.2 10e.2c 4.64",
    "c.f 2.f 1.f 1.25 a.ae 38.1d d.2c 4.9 7.2 e.6 9a.3d8 4.11 3.d 3.77 4.5f 6.c 4 f.c 4.38",
    "8.a 6.28 8.1e 2.2 4e.154 c.e 2.d 3.9 7.2e 1.7 8.e 4.9 7.9 7.93 1.37 25.a 406.a6e0",
    "20.103a 6.de 2.1682 e.1d31 c1f.21e 5e2.134b 5.1060"]⟩,
  ⟨["grext", "graphemeextend"], [
    "300.70 113.7 107.2d 1 1.2 1.2 1 48.b 30.15 10 65.7 2.6 2.2 1.4 23 1e.1b 5b.b 3a.9 9",
    "18.4 1.9 1.3 1.5 2b.3 3c.8 2a.18 1.20 37 1 4.8 4 3.7 a.2 1d 3a 1 2.4 8 9 a.2 1a 2.2 39",
    "4.2 4.2 2.3 3 1e.2 3 b.2 39 4.5 1.2 4 14.2 16.6 1 3a 1.2 1.4 8 7.3 a.2 1e 3b 1 c 9 28",
    "3 37 1.3 5.3 1.4 7.2 b.2 1d 3a 2 2 3 5.2 7.2 b.2 1c.2 39.2 1 2.4 8 9 a.2 1d 48 4 2.3 1",
    "8 51 2.7 c.8 62 2.9 b.7 49.2 1b 1 1 37.e 1.5 1.2 5.b 1.24 9 66.4 1.6 1.2 2.2 19.2 4.3",
    "10.4 d 2.2 6 f 2bf.3 3b2.3 1d.2 1e.2 1e.2 40.2 1.7 8 2.b 9 2d.3 1 75.2 22 76.3 4.2 9",
    "6.3 db.2 2 3a 1.7 1 1 2.8 6.a 2 30.1f 31.4 30.7 1 5 28.9 c.2 20.4 2.2 1.3 38 1.2 3 1.3",
    "3a.8 2.2 98.3 1.d 1.7 4 6 3.2 c6.40 20c c3.21 bfe.3 8d 60.20 22a.6 69.2 75d4.4 1.a",
    "20.2 50.2 110 3 4 19.2 5 97.2 1a.12 d 26.8 19.b 2e.3 30 2.4 2.2 27 43.6 2.2 2.2 c 8 2f",
    "33 1.3 2.2 5.2 1 2a.2 8 ee 2 4 4f30 2e1.10 10.10 16e.2 25d e2 95.5 686.3 1.2 5.4 28.3",
    "4 a5.2 23d.4 183.2 50.3 46.b 31.4 7b 36.f 29 2.2 a.3 31.4 2.2 7 3d.3 24.5 1.8 3e c.2",
    "34.9 a.4 2 5f.3 2 1.2 6 2 9d 3.8 15.2 39.2 1 1 16 e.7 3.5 c3.8 2.3 1 17 51 2.6 1 2 1.2",
    "1.2 eb 2.4 6.2 1.2 1b.2 55.8 2 1.2 6a 1 2.6 1 65.3 2.4 1.5 103.9 1.2 f5 a.2 1 4 90.4",
    "2.2 4 20.a 28.6 2.4 8 9.6 2.3 2e.d 1.2 196.7 1.6 1 52.16 2.7 1.2 1.2 7a.6 3 1.2 1.7 1",
    "48.2 3 1 15b.2 b.2 34.5 5 1 14fd 6.f 369a.5 3b.7 418 3f.4 51 4cb8.2 1261.2e 2.17 21e",
    "1.3 4.5 8.8 2.7 1e.4 94.3 7bb.37 4.32 8 e 16.5 1.f 550.7 1.11 2.7 1.2 1.5 64 a0.7 177",
    "3d.4 1fc.4 3e0.7 6d.7 c16d5.60 80.f0"]⟩,
  ⟨["hex", "hexdigit"], [
    "30.a 7.6 1a.6 fea9.a 7.6 1a.6"]⟩,
  ⟨["idsb", "idsbinaryoperator"], [
    "2ff0.2 2.8"]⟩,
  ⟨["idst", "idstrinaryoperator"], [
    "2ff2.2"]⟩,
  ⟨["idc", "idcontinue"], [
    "30.a 7.1a 4 1.1a 2f a 1 2 5.17 1.1f 1.1ca 4.c e.5 7 1 11.75 1.2 2.4 1 6.5 1 1.14 1.53",
    "1.8b 1.5 2.a6 1.26 2 6.29 8.2d 1 1.2 1.2 1 8.1b 4.4 1d.b 5.4a 4.66 1.8 2.a 1.13 2",
    "10.3b 2.65 e.36 4 2 2.2e 12.1c 4.b 5.18 1.6 9.4a 1.81 2.a 1.13 1.8 2.2 2.16 1.7 1 3.4",
    "2.9 2.2 2.4 8 4.2 1.5 2.c a 1 2.3 1.6 4.2 2.16 1.7 1.2 1.2 1.2 2 1.5 4.2 2.3 3 7.4 1",
    "7.10 b.3 1.9 1.3 1.16 1.7 1.2 1.5 2.a 1.3 1.3 2 f.4 2.a 9.7 1.3 1.8 2.2 2.16 1.7 1.2",
    "1.5 2.9 2.2 2.3 7.3 4.2 1.5 2.a 1 10.2 1.6 3.3 1.4 3.2 1 1.2 3.2 3.3 3.c 4.5 3.3 1.4 2",
    "6 e.a 10.d 1.3 1.17 1.10 2.9 1.3 1.4 7.2 1.3 2 2.4 2.a 10.4 1.8 1.3 1.17 1.a 1.5 2.9",
    "1.3 1.4 7.2 6.2 1.4 2.a 1.3 c.d 1.3 1.33 1.3 1.5 5.4 7.5 2.a a.6 1.3 1.12 3.18 1.9 1",
    "2.7 3 4.6 1 1.8 6.a 2.2 d.3a 5.f 1.a 27.2 1 1.5 1.18 1 1.17 2.5 1 1.7 1.a 2.4 20 17.2",
    "6.a b 1 1 4.a 1.24 4.14 1.12 1.24 9 39.4a 6.4e 2.26 1 5 2.2b 1.14d 1.4 2.7 1 1.4 2.29",
    "1.4 2.21 1.4 2.7 1 1.4 2.f 1.39 1.4 2.43 2.3 9.9 e.10 10.56 2.6 3.26c 2.11 1.1a 5.4b",
    "3.b 7.16 9.16 b.14 c.d 1.3 1.2 c.54 3 4.2 2.a 21.3 1.b 6.59 7.2b 5.46 a.1f 1.c 4.c",
    "a.28 2.5 b.2c 4.1a 6.b 25.1c 4.3f 1.1d 2.b 6.a d 8.e 1.10 31.4d 3.a 11.9 c.74 c.38 8.a",
    "3.31 2.9 7.2b 2.3 10.3 1.27 5.216 2.6 2.26 2.6 2.8 1 1 1 1.1f 2.35 1.7 1 3.3 1.7 3.4",
    "2.6 4.d 5.3 1.7 42.2 13 1c d 10.d 33.d 4 3.c 11 4 2.a 1 2.6 6 1 1 1.10 2.4 5.5 4 11.29",
    "a77.e5 6.9 c.26 1 5 2.38 7 f.18 9.7 1.7 1.7 1.7 1.7 1.7 1.7 1.7 1.20 205.3 19.f 1.5",
    "2.5 4.56 2.7 1.5a 1.4 5.2b 1.5e 11.20 30.10 200.19c0 40.568d 43.2e 2.10d 3.1c 14.30",
    "4.a 1.73 25.9 2.67 2.40 5.2 1 1.5 18.36 4 13.34 c.46 a.a 6.18 3 1.31 2.24 c.1d 3.41",
    "e.b 6.1f 1.37 9.e 2.a 6.17 3.49 18.3 2.10 2.5 a.6 2.6 2.6 9.7 1.7 1.2b 1.e 6.7b 1.2",
    "2.a 6.2ba4 c.17 4.31 2104.16e 2.6a 26.7 c.5 5.c 1.d 1.5 1 1.2 1.2 1.6c 21.16b 12.40",
    "2.36 28.c 4.10 10.10 3.2 18.3 20.5 1.87 13.a 7.1a 4 1.1a b.59 3.6 2.6 2.6 2.3 23.c",
    "1.1a 1.13 1.2 1.f 2.e 22.7b 45.35 88 82.1d 3.31 f 1f.20 d.1e 5.2b 5.1e 2.24 4.8 1.5",
    "2a.9e 2.a 6.24 4.24 4.28 8.34 c.b 1.f 1.7 1.2 1.b 1.f 1.7 1.2 43.137 9.16 a.8 18.6",
    "1.2a 1.9 45.6 2 1.2c 1.2 3 2.17 a.17 9.1f 41.13 1.2 a.16 a.1a 46.38 6.2 40.4 1.2 5.8",
    "1.3 1.1d 2.3 4 20.1d 3.1d 23.8 1.1e 19.36 a.16 a.13 d.12 6e.49 37.33 d.33 d.28 8.a",
    "146.2a 1.2 3.2 4b.20 a 8.21 1f.16 2a.15 1b.17 9.47 1f.10 9.3c 7 d.19 7.a 6.35 1.a 4.4",
    "8.24 2 9.45 4.4 1.d 1 23.12 1.25 6.4 3e.7 1 1.4 1.f 1.a 7.3b 5.a 6.4 1.8 2.2 2.16 1.7",
    "1.2 1.5 1.a 2.2 2.3 2 6 5.7 2.7 3.5 8b.4b 5.a 4.4 1e.46 1 8.a a6.36 2.9 17.6 22.41 3",
    "b.a 26.39 7.a 36.1b 2.f 4.a 6.7 b9.3b 65.4a 15.8 2 2.8 1.2 1.1e 1.2 2.9 c.a 46.8 2.2e",
    "2.8 1.2 1b.3f 8 8.4a 3 12.49 107.9 1.2d 1.9 f.a 18.1e 2.16 1.e 49.7 1.2 1.2c 3 1.2 1.9",
    "8.a 6.6 1.2 1.25 1.2 1.6 7.a 136.17 9.11 1.29 3.5 d.a 56 4f.39a 66.6f 11.c4 a4c.61",
    "f.430 10.16 faa.247 21b9.239 7.1f 1.a 6.4f 1.a 6.1e 2.5 b.37 9.4 c.a 9.15 5.13 2b0.40",
    "80.4b 4.39 7.11 40.2 1.2 b.2 e.17f8 8.4d6 2a.9 22e7.4 1.7 1.2 1.123 f 1d.3 2 e.4 8.18c",
    "904.6b 5.d 3.9 7.a 3.2 1261.2e 2.17 21e.5 3.6 8.8 2.7 1e.4 94.3 1bb.55 1.47 1.2 2 2.2",
    "2.4 1.c 1 1.7 1.41 1.4 2.8 1.7 1.1c 1.4 1.5 1 3.7 1.154 2.19 1.19 1.1f 1.19 1.1f 1.19",
    "1.1f 1.19 1.1f 1.19 1.8 2.32 200.37 4.32 8 e 16.5 1.f 450.1f 6.6 d5.7 1.11 2.7 1.2 1.5",
    "5.3e 21 70.2d 3.e 2.a 4 141.1f 11.3a 1d6.2a 2e6.7 1.4 1.2 1.f 1.c5 b.7 29.4c 4.a 4a6.4",
    "1.1b 1.2 1 2 1.a 1.4 1 1 6 4 1 1 1.3 1.2 1 2 1 1 1 1 1.2 1 2.4 1.7 1.4 1.4 1 1.a 1.11",
    "5.3 1.5 1.11 d34.a 406.a6e0 20.103a 6.de 2.1682 e.1d31 c1f.21e 5e2.134b 5.1060",
    "add50.f0"]⟩,
  ⟨["ids", "idstart"], [
    "41.1a 6.1a 2f a 4 5.17 1.1f 1.1ca 4.c e.5 7 1 81.5 1.2 2.4 1 6 1.3 1 1.14 1.53 1.8b",
    "8.a6 1.26 2 6.29 47.1b 4.4 2d.2b 23.2 1.63 1 f.2 7.2 a.3 2 10 1.1e 1d.59 b 18.21 9.2 4",
    "5.16 4 9 3 17.19 7.b 5.18 1.6 11.2a 3a.36 3 12 7.a f.10 4.8 2.2 2.16 1.7 1 3.4 3 10",
    "d.2 1.3 e.2 a 8.6 4.2 2.16 1.7 1.2 1.2 1.2 1f.4 1 13.3 10.9 1.3 1.16 1.7 1.2 1.5 3 12",
    "f.2 17 b.8 2.2 2.16 1.7 1.2 1.5 3 1e.2 1.3 f 11 1.6 3.3 1.4 3.2 1 1.2 3.2 3.3 3.c 16",
    "34.8 1.3 1.17 1.10 3 1a.3 2 2.2 1e 4.8 1.3 1.17 1.a 1.5 3 1f.2 1.2 f.2 11.9 1.3 1.29 2",
    "10 5.3 8.3 18.6 5.12 3.18 1.9 1 2.7 3a.30 1.2 c.7 3a.2 1 1.5 1.18 1 1.a 1.2 9 2.5 1",
    "15.4 20 3f.8 1.24 1b.5 73.2b 14 10.6 4.4 3 3.2 7.3 4.d c 11.26 1 5 2.2b 1.14d 1.4 2.7",
    "1 1.4 2.29 1.4 2.21 1.4 2.7 1 1.4 2.f 1.39 1.4 2.43 25.10 10.56 2.6 3.26c 2.11 1.1a",
    "5.4b 3.b 7.12 d.13 e.12 e.d 1.3 f.34 23 4 43.59 7.29 1 5.46 a.1f 31.1e 2.5 b.2c 4.1a",
    "36.17 9.35 52 5d.2f 11.8 36.1e d.2 a.2c 1a.24 29.3 a.24 2.9 7.2b 2.3 29.4 1.6 1.2 3",
    "5.c0 40.116 2.6 2.26 2.6 2.8 1 1 1 1.1f 2.35 1.7 1 3.3 1.7 3.4 2.6 4.d 5.3 1.7 74 d",
    "10.d 65 4 2.a 1 2.6 6 1 1 1.10 2.4 5.5 4 11.29 a77.e5 6.4 3.2 c.26 1 5 2.38 7 10.17",
    "9.7 1.7 1.7 1.7 1.7 1.7 1.7 1.7 226.3 19.9 7.5 2.5 4.56 4.5 1.5a 1.4 5.2b 1.5e 11.20",
    "30.10 200.19c0 40.568d 43.2e 2.10d 3.10 a.2 14.2f 10.1f 2.50 27.9 2.67 2.40 5.2 1 1.5",
    "18.10 1.3 1.4 1.17 1d.34 e.32 3e.6 3 1.2 b.1c a.17 19.1d 7.2f 1c 10.5 1.a a.5 1.29",
    "17.3 1.8 14.17 3 3.32 1 3.2 2.5 2 1 18.3 2.b 7.3 c.6 2.6 2.6 9.7 1.7 1.2b 1.e 6.73",
    "1d.2ba4 c.17 4.31 2104.16e 2.6a 26.7 c.5 5 1.a 1.d 1.5 1 1.2 1.2 1.6c 21.16b 12.40",
    "2.36 28.c 74.5 1.87 24.1a 6.1a b.59 3.6 2.6 2.6 2.3 23.c 1.1a 1.13 1.2 1.f 2.e 22.7b",
    "45.35 10b.1d 3.31 2f.20 d.1e 5.26 a.1e 2.24 4.8 1.5 2a.9e 12.24 4.24 4.28 8.34 c.b 1.f",
    "1.7 1.2 1.b 1.f 1.7 1.2 43.137 9.16 a.8 18.6 1.2a 1.9 45.6 2 1.2c 1.2 3 2.17 a.17 9.1f",
    "41.13 1.2 a.16 a.1a 46.38 6.2 40 f.4 1.3 1.1d 2a.1d 3.1d 23.8 1.1c 1b.36 a.16 a.13",
    "d.12 6e.49 37.33 d.33 d.24 15c.2a 6.2 4e.1d a 8.16 2a.12 2e.15 1b.17 c.35 39.2 2 d.2d",
    "20.19 1a.24 1d 2 8.23 3 c.30 e.4 15 1 23.12 1.19 13.2 3f.7 1 1.4 1.f 1.a 7.2f 26.8 2.2",
    "2.16 1.7 1.2 1.5 3 12 c.5 9e.35 12.4 14.3 1e.30 14.2 1 b8.2f 29.4 24.30 14 3b.2b d",
    "47.1b 25.7 b9.2c 74.40 1f.8 2 2.8 1.2 1.18 f 1 5e.8 2.27 10 1 1c a.28 7 15 b.2e 13",
    "12.49 107.9 1.25 11 31.1e 70.7 1.2 1.26 15 19.6 1.2 1.20 e 147.13 f 1.d 1.22 7c 4f.39a",
    "66.6f 11.c4 a4c.61 f.430 11.6 fb9.247 21b9.239 7.1f 11.4f 11.1e 12.30 10.4 1f.15 5.13",
    "2b0.40 80.4b 5 42.d 40.2 1 1c.17f8 8.4d6 2a.9 22e7.4 1.7 1.2 1.123 f 1d.3 2 e.4 8.18c",
    "904.6b 5.d 3.9 7.a 1766.55 1.47 1.2 2 2.2 2.4 1.c 1 1.7 1.41 1.4 2.8 1.7 1.1c 1.4 1.5",
    "1 3.7 1.154 2.19 1.19 1.1f 1.19 1.1f 1.19 1.1f 1.19 1.1f 1.19 1.8 734.1f 6.6 105.3e",
    "92.2d a.7 10 141.1e 12.2c 1e4.1c 2f4.7 1.4 1.2 1.f 1.c5 3b.44 7 4b4.4 1.1b 1.2 1 2 1.a",
    "1.4 1 1 6 4 1 1 1.3 1.2 1 2 1 1 1 1 1.2 1 2.4 1.7 1.4 1.4 1 1.a 1.11 5.3 1.5 1.11",
    "1144.a6e0 20.103a 6.de 2.1682 e.1d31 c1f.21e 5e2.134b 5.1060"]⟩,
  ⟨["ideo", "ideographic"], [
    "3006.2 19.9 e.3 3c5.19c0 40.5200 5900.16e 2.6a 750a 1b.17f8 8.4d6 2a.9 2467.18c",
    "4d04.a6e0 20.103a 6.de 2.1682 e.1d31 c1f.21e 5e2.134b 5.1060"]⟩,
  ⟨["joinc", "joincontrol"], [
    "200c.2"]⟩,
  ⟨["loe", "logicalorderexception"], [
    "e40.5 7b.5 af0.3 2 90fa.2 2 1.2"]⟩,
  ⟨["lower", "lowercase"], [
    "61.1a 2f a 4 24.18 1.8 1 1 1 1 1 1 1 1 1 1 1 1 1 1 1 1 1 1 1 1 1 1 1 1 1 1 1 1.2 1 1 1",
    "1 1 1 1 1.2 1 1 1 1 1 1 1 1 1 1 1 1 1 1 1 1 1 1 1 1 1 1 1 2 1 1.3 2 1 2 3.2 4 2 3.3 2",
    "2 1 1 2 1.2 1 2 3 1 2.2 2.3 6 2 2 1 1 1 1 1 1 1 1.2 1 1 1 1 1 1 1 1 1.2 2 1 3 1 1 1 1",
    "1 1 1 1 1 1 1 1 1 1 1 1 1 1 1 1 1 1 1 1 1 1 1 1 1.7 2 2.2 1 4 1 1 1 1.45 1.24 7.2 1e.5",
    "60 2b 1 3 2.4 12 1b.23 1.2 3.3 1 1 1 1 1 1 1 1 1 1 1 1.5 1 2 2.2 33.30 1 1 1 1 1 1 1 1",
    "1 1 1 1 1 1 1 1 1 9 1 1 1 1 1 1 1 1 1 1 1 1 1 1 1 1 1 1 1 1 1 1 1 1 1 1 2 1 1 1 1 1",
    "1.2 1 1 1 1 1 1 1 1 1 1 1 1 1 1 1 1 1 1 1 1 1 1 1 1 1 1 1 1 1 1 1 1 1 1 1 1 1 1 1 1 1",
    "1 1 1 1 1 1 1 30.29 b47.2b 1.4 2f8.6 882.9 77.c0 41 1 1 1 1 1 1 1 1 1 1 1 1 1 1 1 1 1",
    "1 1 1 1 1 1 1 1 1 1 1 1 1 1 1 1 1 1 1 1 1 1 1 1 1 1 1 1 1 1 1 1 1 1 1 1 1 1 1 1 1 1 1",
    "1 1 1 1 1 1 1 1 1 1 1 1 1 1.9 1 1 1 1 1 1 1 1 1 1 1 1 1 1 1 1 1 1 1 1 1 1 1 1 1 1 1 1",
    "1 1 1 1 1 1 1 1 1 1 1 1 1 1 1 1 1 1 1 1 1.9 8.6 a.8 8.8 8.6 a.8 8.8 8.e 2.8 8.8 8.8",
    "8.5 1.2 6 3.3 1.2 8.4 2.2 8.8 a.3 1.2 79 d 10.d 6d 3.2 3 1b 4 4 2.2 8.4 4 21.10 4",
    "34b.1a 746.30 1 3.2 1 1 1 4 1.2 1.8 3 1 1 1 1 1 1 1 1 1 1 1 1 1 1 1 1 1 1 1 1 1 1 1 1",
    "1 1 1 1 1 1 1 1 1 1 1 1 1 1 1 1 1 1 1 1 1 1 1 1 1.2 7 1 4 c.26 1 5 7913 1 1 1 1 1 1 1",
    "1 1 1 1 1 1 1 1 1 1 1 1 1 1 1 13 1 1 1 1 1 1 1 1 1 1 1 1 1.3 85 1 1 1 1 1 1.3 1 1 1 1",
    "1 1 1 1 1 1 1 1 1 1 1 1 1 1 1 1 1 1 1 1 1 1 1 1 1 1 1.a 1 1 2 1 1 1 1 4 1 2 1.3 1 1 1",
    "1 1 1 1 1 1 1 5 5 1 1 1 1 1 1 1 4 1 6 1 1 1 1 18.3 1 1.3 335.2b 1.e 6.50 4f40.7 c.5",
    "429.1a 4cd.28 88.24 9b.b 1.f 1.7 1.2 1c3 2.3 1.2a 1.9 505.33 bcd.20 5580.20 659a.1a",
    "1a.7 1.12 1a.1a 1a.4 1 1.7 1.b 1a.1a 1a.1a 1a.1a 1a.1a 1a.1a 1a.1a 1a.1a 1a.1a 1a.1c",
    "1c.19 1.6 1a.19 1.6 1a.19 1.6 1a.19 1.6 1a.19 1.6 1 734.a 1.14 6.6 105.3e 8b4.22"]⟩,
  ⟨["math"], [
    "2b 10.3 1f 1d 1 2d 4 25 1f 2d8.3 2 1a.2 2.3 20f.3 1a0d 1b.3 b 3 d e.4 15.5 b.5 41.d 4",
    "3.2 4.5 12 4 2.a 1 2.6 6 3.2 2.2 1.3 1.6 3.e 1 44.18 1.6 1.2 4.2 4.20 1 6.2 e.10c 8.4",
    "14.2 5a 1e.1b 1 18 b.7 1bd.2 c.a 4.6 4.2 2.2 3.5 e 1 2.6 b.8 5.2 39 1 1d.4 9.3 150.40",
    "100.200 30.15 2.6 cfdc 337.6 1 a2 10.3 1d 1 1d 1 83 6.4 d413.55 1.47 1.2 2 2.2 2.4 1.c",
    "1 1.7 1.41 1.4 2.8 1.7 1.1c 1.4 1.5 1 3.7 1.154 2.124 2.32 1600.4 1.1b 1.2 1 2 1.a 1.4",
    "1 1 6 4 1 1 1.3 1.2 1 2 1 1 1 1 1.2 1 2.4 1.7 1.4 1.4 1 1.a 1.11 5.3 1.5 1.11 34.2"]⟩,
  ⟨["nchar", "noncharactercodepoint"], [
    "fdd0.20 20e.2 fffe.2 fffe.2 fffe.2 fffe.2 fffe.2 fffe.2 fffe.2 fffe.2 fffe.2 fffe.2",
    "fffe.2 fffe.2 fffe.2 fffe.2 fffe.2 fffe.2"]⟩,
  ⟨["patsyn", "patternsyntax"], [
    "21.f a.7 1a.4 1 1a.4 22.7 1 1.2 1 1.2 4 4 3 17 1f 1f18.18 8.f 2.13 1.a 131.2d0 a0.276",
    "1e.46c 200.80 181.3 4.19 f cd0d.2 105.2"]⟩,
  ⟨["patws", "patternwhitespace"], [
    "9.5 12 64 1f88.2 18.2"]⟩,
  ⟨["pcm", "prependedconcatenationmark"], [
    "600.6 d7 31 180.2 50 107da f"]⟩,
  ⟨["qmark", "quotationmark"], [
    "22 4 83 f 1f5c.8 19.2 e07 1c9.4 d.3 ce21.4 bd 4 5a.2"]⟩,
  ⟨["radical"], [
    "2e80.1a 1.59 c.d6"]⟩,
  ⟨["ri", "regionalindicator"], [
    "1f1e6.1a"]⟩,
  ⟨["sterm", "sentenceterminal"], [
    "21 c 10 549 93.3 b4 2b.3 f6 3d 1 3.2 125.2 6e4.2 316 4.2 305 c6.2 cc 5 13a.2 162.4",
    "ae.2 2.2 1d.2 bc.2 41.2 3bc.2 9.3 de4 d 16.2 1ad 74fc 10e.2 e3 3 17e.2 56.2 5f 98.2",
    "93.3 90.2 f9 5266 3.2 a9 c 10 41 af4.2 4fd.5 2c.4 bd.2 75.4 7f.3 81.2 6 10.2 58.2 1.2",
    "6c 1a1.2 175.2 5.f 69.2 f9.3 205 1 fb.2 57.2 1a4.2 2b4.2 4a.2 4b29.2 85 41.2 b 353",
    "4e06 1de8"]⟩,
  ⟨["sd", "softdotted"], [
    "69.2 c4 119 1e 34 14 140 62 1 1909 33 d 3 84 9d 1a5 d6.2 b32 1a7a5.2 32.2 32.2 32.2",
    "32.2 32.2 32.2 32.2 32.2 32.2 32.2 32.2 32.2 886 131.2 1a"]⟩,
  ⟨["term", "terminalpunctuation"], [
    "21 a 1 b.2 3 33e 8 201 39 48 e 1.3 b4 2b.b 1 eb.2 36.f 1f 105.2 4f4.2 ac 4.6 137.2",
    "315.8 305 7c.3 47.2 9d.3 3 27.4 2.2 13a.2 162.4 ae.2 1.3 1d.2 bc.5 3e.2 3bc.2 9.3 de4",
    "d 4 a 1.2 3.2 1ac.2 74fb.2 10d.3 e3.5 17e.2 56.2 5f 97.3 93.3 7f 10.2 f9 5264.3 1.4 a9",
    "a 1 b.2 3 41 2 43a 30 486 c7 136.2 98.6 44.6 59.4 3b8.5 2c.4 bd.7 70.4 7f.3 81.2 6",
    "10.2 58.5 6c 1a1.3 c.2 166.4 3.f 69.2 f9.3 205 1 fb.2 57.2 4.2 19e.3 2d 285.2 4a.2",
    "52b.5 45f9.2 85 41.3 a 352.2 4e06 1de7.4"]⟩,
  ⟨["uideo", "unifiedideograph"], [
    "3400.19c0 40.5200 5a0e.2 1 1.2 a 1 1.2 2.3 105d6.a6e0 20.103a 6.de 2.1682 e.1d31",
    "141f.134b 5.1060"]⟩,
  ⟨["upper", "uppercase"], [
    "41.1a 65.17 1.7 21 1 1 1 1 1 1 1 1 1 1 1 1 1 1 1 1 1 1 1 1 1 1 1 1 1 1 1 2 1 1 1 1 1 1",
    "1 2 1 1 1 1 1 1 1 1 1 1 1 1 1 1 1 1 1 1 1 1 1 1 1.2 1 1 3.2 1 1.2 1.3 2.4 1.2 1.3 3.2",
    "1.2 1 1 1.2 1 2 1.2 1.3 1 1.2 3 7 2 2 2 1 1 1 1 1 1 1 2 1 1 1 1 1 1 1 1 2 2 1.3 1 1 1",
    "1 1 1 1 1 1 1 1 1 1 1 1 1 1 1 1 1 1 1 1 1 1 1 1 1 1 7.2 1.2 2 1.4 1 1 1 1 121 1 3 8 6",
    "1.3 1 1.2 1.11 1.9 23 2.3 3 1 1 1 1 1 1 1 1 1 1 1 5 2 1.2 2.33 30 1 1 1 1 1 1 1 1 1 1",
    "1 1 1 1 1 1 9 1 1 1 1 1 1 1 1 1 1 1 1 1 1 1 1 1 1 1 1 1 1 1 1 1 1 1.2 1 1 1 1 1 1 2 1",
    "1 1 1 1 1 1 1 1 1 1 1 1 1 1 1 1 1 1 1 1 1 1 1 1 1 1 1 1 1 1 1 1 1 1 1 1 1 1 1 1 1 1 1",
    "1 1 1 2.26 b49.26 1 5 2d2.56 89a.2b 2.3 140 1 1 1 1 1 1 1 1 1 1 1 1 1 1 1 1 1 1 1 1 1",
    "1 1 1 1 1 1 1 1 1 1 1 1 1 1 1 1 1 1 1 1 1 1 1 1 1 1 1 1 1 1 1 1 1 1 1 1 1 1 1 1 1 1 1",
    "1 1 1 1 1 1 1 1 1 1 9 1 1 1 1 1 1 1 1 1 1 1 1 1 1 1 1 1 1 1 1 1 1 1 1 1 1 1 1 1 1 1 1",
    "1 1 1 1 1 1 1 1 1 1 1 1 1 1 1 1 9.8 8.6 a.8 8.8 8.6 b 1 1 1 8.8 48.4 c.4 c.4 c.5 b.4",
    "106 4 3.3 2.3 2 3.5 6 1 1 1.4 2.4 a.2 5 1a.10 13 332.1a 730.30 30 1.3 2 1 1 1.4 1 2",
    "8.3 1 1 1 1 1 1 1 1 1 1 1 1 1 1 1 1 1 1 1 1 1 1 1 1 1 1 1 1 1 1 1 1 1 1 1 1 1 1 1 1 1",
    "1 1 1 1 1 1 1 1 8 1 4 794d 1 1 1 1 1 1 1 1 1 1 1 1 1 1 1 1 1 1 1 1 1 1 13 1 1 1 1 1 1",
    "1 1 1 1 1 1 1 87 1 1 1 1 1 1 3 1 1 1 1 1 1 1 1 1 1 1 1 1 1 1 1 1 1 1 1 1 1 1 1 1 1 1 1",
    "1 1 a 1 1.2 1 1 1 1 4 1 2 1 3 1 1 1 1 1 1 1 1 1 1.5 1.5 1 1 1 1 1 1 1 1.4 1 6 5 1 1c",
    "572b.1a 4c5.28 88.24 9c.b 1.f 1.7 1.2 6ea.33 bed.20 5580.20 65a0.1a 1a.1a 1a.1a 1a 1.2",
    "2 2.2 2.4 1.8 1a.1a 1a.2 1.4 2.8 1.7 1b.2 1.4 1.5 1 3.7 1b.1a 1a.1a 1a.1a 1a.1a 1a.1a",
    "1a.1a 1e.19 21.19 21.19 21.19 21.19 21 1135.22 80e.1a 6.1a 6.1a"]⟩,
  ⟨["vs", "variationselector"], [
    "180b.3 1 e5f0.10 d02f0.f0"]⟩,
  ⟨["wspace", "whitespace", "space"], [
    "9.5 12 64 1a 15df 97f.b 1d.2 5 2f fa0"]⟩,
  ⟨["xidc", "xidcontinue"], [
    "30.a 7.1a 4 1.1a 2f a 1 2 5.17 1.1f 1.1ca 4.c e.5 7 1 11.75 1.2 3.3 1 6.5 1 1.14 1.53",
    "1.8b 1.5 2.a6 1.26 2 6.29 8.2d 1 1.2 1.2 1 8.1b 4.4 1d.b 5.4a 4.66 1.8 2.a 1.13 2",
    "10.3b 2.65 e.36 4 2 2.2e 12.1c 4.b 5.18 1.6 9.4a 1.81 2.a 1.13 1.8 2.2 2.16 1.7 1 3.4",
    "2.9 2.2 2.4 8 4.2 1.5 2.c a 1 2.3 1.6 4.2 2.16 1.7 1.2 1.2 1.2 2 1.5 4.2 2.3 3 7.4 1",
    "7.10 b.3 1.9 1.3 1.16 1.7 1.2 1.5 2.a 1.3 1.3 2 f.4 2.a 9.7 1.3 1.8 2.2 2.16 1.7 1.2",
    "1.5 2.9 2.2 2.3 7.3 4.2 1.5 2.a 1 10.2 1.6 3.3 1.4 3.2 1 1.2 3.2 3.3 3.c 4.5 3.3 1.4 2",
    "6 e.a 10.d 1.3 1.17 1.10 2.9 1.3 1.4 7.2 1.3 2 2.4 2.a 10.4 1.8 1.3 1.17 1.a 1.5 2.9",
    "1.3 1.4 7.2 6.2 1.4 2.a 1.3 c.d 1.3 1.33 1.3 1.5 5.4 7.5 2.a a.6 1.3 1.12 3.18 1.9 1",
    "2.7 3 4.6 1 1.8 6.a 2.2 d.3a 5.f 1.a 27.2 1 1.5 1.18 1 1.17 2.5 1 1.7 1.a 2.4 20 17.2",
    "6.a b 1 1 4.a 1.24 4.14 1.12 1.24 9 39.4a 6.4e 2.26 1 5 2.2b 1.14d 1.4 2.7 1 1.4 2.29",
    "1.4 2.21 1.4 2.7 1 1.4 2.f 1.39 1.4 2.43 2.3 9.9 e.10 10.56 2.6 3.26c 2.11 1.1a 5.4b",
    "3.b 7.16 9.16 b.14 c.d 1.3 1.2 c.54 3 4.2 2.a 21.3 1.b 6.59 7.2b 5.46 a.1f 1.c 4.c",
    "a.28 2.5 b.2c 4.1a 6.b 25.1c 4.3f 1.1d 2.b 6.a d 8.e 1.10 31.4d 3.a 11.9 c.74 c.38 8.a",
    "3.31 2.9 7.2b 2.3 10.3 1.27 5.216 2.6 2.26 2.6 2.8 1 1 1 1.1f 2.35 1.7 1 3.3 1.7 3.4",
    "2.6 4.d 5.3 1.7 42.2 13 1c d 10.d 33.d 4 3.c 11 4 2.a 1 2.6 6 1 1 1.10 2.4 5.5 4 11.29",
    "a77.e5 6.9 c.26 1 5 2.38 7 f.18 9.7 1.7 1.7 1.7 1.7 1.7 1.7 1.7 1.20 205.3 19.f 1.5",
    "2.5 4.56 2.2 2.3 1.5a 1.4 5.2b 1.5e 11.20 30.10 200.19c0 40.568d 43.2e 2.10d 3.1c",
    "14.30 4.a 1.73 25.9 2.67 2.40 5.2 1 1.5 18.36 4 13.34 c.46 a.a 6.18 3 1.31 2.24 c.1d",
    "3.41 e.b 6.1f 1.37 9.e 2.a 6.17 3.49 18.3 2.10 2.5 a.6 2.6 2.6 9.7 1.7 1.2b 1.e 6.7b",
    "1.2 2.a 6.2ba4 c.17 4.31 2104.16e 2.6a 26.7 c.5 5.c 1.d 1.5 1 1.2 1.2 1.6c 21.8b 6.da",
    "12.40 2.36 28.a 6.10 10.10 3.2 18.3 21 1 3 1 1 1 1.7e 13.a 7.1a 4 1.1a b.59 3.6 2.6",
    "2.6 2.3 23.c 1.1a 1.13 1.2 1.f 2.e 22.7b 45.35 88 82.1d 3.31 f 1f.20 d.1e 5.2b 5.1e",
    "2.24 4.8 1.5 2a.9e 2.a 6.24 4.24 4.28 8.34 c.b 1.f 1.7 1.2 1.b 1.f 1.7 1.2 43.137 9.16",
    "a.8 18.6 1.2a 1.9 45.6 2 1.2c 1.2 3 2.17 a.17 9.1f 41.13 1.2 a.16 a.1a 46.38 6.2 40.4",
    "1.2 5.8 1.3 1.1d 2.3 4 20.1d 3.1d 23.8 1.1e 19.36 a.16 a.13 d.12 6e.49 37.33 d.33 d.28",
    "8.a 146.2a 1.2 3.2 4b.20 a 8.21 1f.16 2a.15 1b.17 9.47 1f.10 9.3c 7 d.19 7.a 6.35 1.a",
    "4.4 8.24 2 9.45 4.4 1.d 1 23.12 1.25 6.4 3e.7 1 1.4 1.f 1.a 7.3b 5.a 6.4 1.8 2.2 2.16",
    "1.7 1.2 1.5 1.a 2.2 2.3 2 6 5.7 2.7 3.5 8b.4b 5.a 4.4 1e.46 1 8.a a6.36 2.9 17.6 22.41",
    "3 b.a 26.39 7.a 36.1b 2.f 4.a 6.7 b9.3b 65.4a 15.8 2 2.8 1.2 1.1e 1.2 2.9 c.a 46.8",
    "2.2e 2.8 1.2 1b.3f 8 8.4a 3 12.49 107.9 1.2d 1.9 f.a 18.1e 2.16 1.e 49.7 1.2 1.2c 3",
    "1.2 1.9 8.a 6.6 1.2 1.25 1.2 1.6 7.a 136.17 9.11 1.29 3.5 d.a 56 4f.39a 66.6f 11.c4",
    "a4c.61 f.430 10.16 faa.247 21b9.239 7.1f 1.a 6.4f 1.a 6.1e 2.5 b.37 9.4 c.a 9.15 5.13",
    "2b0.40 80.4b 4.39 7.11 40.2 1.2 b.2 e.17f8 8.4d6 2a.9 22e7.4 1.7 1.2 1.123 f 1d.3 2",
    "e.4 8.18c 904.6b 5.d 3.9 7.a 3.2 1261.2e 2.17 21e.5 3.6 8.8 2.7 1e.4 94.3 1bb.55 1.47",
    "1.2 2 2.2 2.4 1.c 1 1.7 1.41 1.4 2.8 1.7 1.1c 1.4 1.5 1 3.7 1.154 2.19 1.19 1.1f 1.19",
    "1.1f 1.19 1.1f 1.19 1.1f 1.19 1.8 2.32 200.37 4.32 8 e 16.5 1.f 450.1f 6.6 d5.7 1.11",
    "2.7 1.2 1.5 5.3e 21 70.2d 3.e 2.a 4 141.1f 11.3a 1d6.2a 2e6.7 1.4 1.2 1.f 1.c5 b.7",
    "29.4c 4.a 4a6.4 1.1b 1.2 1 2 1.a 1.4 1 1 6 4 1 1 1.3 1.2 1 2 1 1 1 1 1.2 1 2.4 1.7 1.4",
    "1.4 1 1.a 1.11 5.3 1.5 1.11 d34.a 406.a6e0 20.103a 6.de 2.1682 e.1d31 c1f.21e 5e2.134b",
    "5.1060 add50.f0"]⟩,
  ⟨["xids", "xidstart"], [
    "41.1a 6.1a 2f a 4 5.17 1.1f 1.1ca 4.c e.5 7 1 81.5 1.2 3.3 1 6 1.3 1 1.14 1.53 1.8b",
    "8.a6 1.26 2 6.29 47.1b 4.4 2d.2b 23.2 1.63 1 f.2 7.2 a.3 2 10 1.1e 1d.59 b 18.21 9.2 4",
    "5.16 4 9 3 17.19 7.b 5.18 1.6 11.2a 3a.36 3 12 7.a f.10 4.8 2.2 2.16 1.7 1 3.4 3 10",
    "d.2 1.3 e.2 a 8.6 4.2 2.16 1.7 1.2 1.2 1.2 1f.4 1 13.3 10.9 1.3 1.16 1.7 1.2 1.5 3 12",
    "f.2 17 b.8 2.2 2.16 1.7 1.2 1.5 3 1e.2 1.3 f 11 1.6 3.3 1.4 3.2 1 1.2 3.2 3.3 3.c 16",
    "34.8 1.3 1.17 1.10 3 1a.3 2 2.2 1e 4.8 1.3 1.17 1.a 1.5 3 1f.2 1.2 f.2 11.9 1.3 1.29 2",
    "10 5.3 8.3 18.6 5.12 3.18 1.9 1 2.7 3a.30 1 d.7 3a.2 1 1.5 1.18 1 1.a 1 a 2.5 1 15.4",
    "20 3f.8 1.24 1b.5 73.2b 14 10.6 4.4 3 3.2 7.3 4.d c 11.26 1 5 2.2b 1.14d 1.4 2.7 1 1.4",
    "2.29 1.4 2.21 1.4 2.7 1 1.4 2.f 1.39 1.4 2.43 25.10 10.56 2.6 3.26c 2.11 1.1a 5.4b 3.b",
    "7.12 d.13 e.12 e.d 1.3 f.34 23 4 43.59 7.29 1 5.46 a.1f 31.1e 2.5 b.2c 4.1a 36.17 9.35",
    "52 5d.2f 11.8 36.1e d.2 a.2c 1a.24 29.3 a.24 2.9 7.2b 2.3 29.4 1.6 1.2 3 5.c0 40.116",
    "2.6 2.26 2.6 2.8 1 1 1 1.1f 2.35 1.7 1 3.3 1.7 3.4 2.6 4.d 5.3 1.7 74 d 10.d 65 4 2.a",
    "1 2.6 6 1 1 1.10 2.4 5.5 4 11.29 a77.e5 6.4 3.2 c.26 1 5 2.38 7 10.17 9.7 1.7 1.7 1.7",
    "1.7 1.7 1.7 1.7 226.3 19.9 7.5 2.5 4.56 6.3 1.5a 1.4 5.2b 1.5e 11.20 30.10 200.19c0",
    "40.568d 43.2e 2.10d 3.10 a.2 14.2f 10.1f 2.50 27.9 2.67 2.40 5.2 1 1.5 18.10 1.3 1.4",
    "1.17 1d.34 e.32 3e.6 3 1.2 b.1c a.17 19.1d 7.2f 1c 10.5 1.a a.5 1.29 17.3 1.8 14.17 3",
    "3.32 1 3.2 2.5 2 1 18.3 2.b 7.3 c.6 2.6 2.6 9.7 1.7 1.2b 1.e 6.73 1d.2ba4 c.17 4.31",
    "2104.16e 2.6a 26.7 c.5 5 1.a 1.d 1.5 1 1.2 1.2 1.6c 21.8b 6.da 12.40 2.36 28.a 77 1 3",
    "1 1 1 1.7e 24.1a 6.1a b.38 2.1f 3.6 2.6 2.6 2.3 23.c 1.1a 1.13 1.2 1.f 2.e 22.7b 45.35",
    "10b.1d 3.31 2f.20 d.1e 5.26 a.1e 2.24 4.8 1.5 2a.9e 12.24 4.24 4.28 8.34 c.b 1.f 1.7",
    "1.2 1.b 1.f 1.7 1.2 43.137 9.16 a.8 18.6 1.2a 1.9 45.6 2 1.2c 1.2 3 2.17 a.17 9.1f",
    "41.13 1.2 a.16 a.1a 46.38 6.2 40 f.4 1.3 1.1d 2a.1d 3.1d 23.8 1.1c 1b.36 a.16 a.13",
    "d.12 6e.49 37.33 d.33 d.24 15c.2a 6.2 4e.1d a 8.16 2a.12 2e.15 1b.17 c.35 39.2 2 d.2d",
    "20.19 1a.24 1d 2 8.23 3 c.30 e.4 15 1 23.12 1.19 13.2 3f.7 1 1.4 1.f 1.a 7.2f 26.8 2.2",
    "2.16 1.7 1.2 1.5 3 12 c.5 9e.35 12.4 14.3 1e.30 14.2 1 b8.2f 29.4 24.30 14 3b.2b d",
    "47.1b 25.7 b9.2c 74.40 1f.8 2 2.8 1.2 1.18 f 1 5e.8 2.27 10 1 1c a.28 7 15 b.2e 13",
    "12.49 107.9 1.25 11 31.1e 70.7 1.2 1.26 15 19.6 1.2 1.20 e 147.13 f 1.d 1.22 7c 4f.39a",
    "66.6f 11.c4 a4c.61 f.430 11.6 fb9.247 21b9.239 7.1f 11.4f 11.1e 12.30 10.4 1f.15 5.13",
    "2b0.40 80.4b 5 42.d 40.2 1 1c.17f8 8.4d6 2a.9 22e7.4 1.7 1.2 1.123 f 1d.3 2 e.4 8.18c",
    "904.6b 5.d 3.9 7.a 1766.55 1.47 1.2 2 2.2 2.4 1.c 1 1.7 1.41 1.4 2.8 1.7 1.1c 1.4 1.5",
    "1 3.7 1.154 2.19 1.19 1.1f 1.19 1.1f 1.19 1.1f 1.19 1.1f 1.19 1.8 734.1f 6.6 105.3e",
    "92.2d a.7 10 141.1e 12.2c 1e4.1c 2f4.7 1.4 1.2 1.f 1.c5 3b.44 7 4b4.4 1.1b 1.2 1 2 1.a",
    "1.4 1 1 6 4 1 1 1.3 1.2 1 2 1 1 1 1 1.2 1 2.4 1.7 1.4 1.4 1 1.a 1.11 5.3 1.5 1.11",
    "1144.a6e0 20.103a 6.de 2.1682 e.1d31 c1f.21e 5e2.134b 5.1060"]⟩]

end Speedup.Unicode
