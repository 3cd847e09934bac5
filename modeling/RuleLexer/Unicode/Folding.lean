import RuleLexer.Unicode.Table

/-!
# Simple case folding

Characters that fold to the same character form an orbit. Most orbits have two members and come in
stretches; the others are listed one by one. A set is closed under folding when it contains every
orbit that it meets.
-/

namespace RuleLexer.Unicode

/-- The orbits of two characters. -/
def foldingPairs : List Stretch := Stretch.ofNumbers <| numbers
  "41 4a 1 61 4c 52 1 6c 54 5a 1 74 c0 c4 1 e0 c6 d6 1 e6 d8 de 1 f8 df df 1 1e9e ff ff 1 178
    100 12e 2 101 132 136 2 133 139 147 2 13a 14a 176 2 14b 179 17d 2 17a 180 180 1 243 181 181
    1 253 182 184 2 183 186 186 1 254 187 187 1 188 189 18a 1 256 18b 18b 1 18c 18e 18e 1 1dd
    18f 18f 1 259 190 190 1 25b 191 191 1 192 193 193 1 260 194 194 1 263 195 195 1 1f6 196 196
    1 269 197 197 1 268 198 198 1 199 19a 19a 1 23d 19b 19b 1 a7dc 19c 19c 1 26f 19d 19d 1 272
    19e 19e 1 220 19f 19f 1 275 1a0 1a4 2 1a1 1a6 1a6 1 280 1a7 1a7 1 1a8 1a9 1a9 1 283 1ac 1ac
    1 1ad 1ae 1ae 1 288 1af 1af 1 1b0 1b1 1b2 1 28a 1b3 1b5 2 1b4 1b7 1b7 1 292 1b8 1b8 1 1b9
    1bc 1bc 1 1bd 1bf 1bf 1 1f7 1cd 1db 2 1ce 1de 1ee 2 1df 1f4 1f4 1 1f5 1f8 21e 2 1f9 222 232
    2 223 23a 23a 1 2c65 23b 23b 1 23c 23e 23e 1 2c66 23f 240 1 2c7e 241 241 1 242 244 244 1 289
    245 245 1 28c 246 24e 2 247 250 250 1 2c6f 251 251 1 2c6d 252 252 1 2c70 25c 25c 1 a7ab 261
    261 1 a7ac 264 264 1 a7cb 265 265 1 a78d 266 266 1 a7aa 26a 26a 1 a7ae 26b 26b 1 2c62 26c
    26c 1 a7ad 271 271 1 2c6e 27d 27d 1 2c64 282 282 1 a7c5 287 287 1 a7b1 29d 29d 1 a7b2 29e
    29e 1 a7b0 370 372 2 371 376 376 1 377 37b 37d 1 3fd 37f 37f 1 3f3 386 386 1 3ac 388 38a 1
    3ad 38c 38c 1 3cc 38e 38f 1 3cd 390 390 1 1fd3 391 393 2 3b1 394 396 2 3b4 397 397 1 3b7 39b
    39d 2 3bb 39e 39f 1 3be 3a4 3a5 1 3c4 3a7 3a8 1 3c7 3aa 3ab 1 3ca 3b0 3b0 1 1fe3 3cf 3cf 1
    3d7 3d8 3ee 2 3d9 3f2 3f2 1 3f9 3f7 3f7 1 3f8 3fa 3fa 1 3fb 400 40f 1 450 410 411 1 430 413
    415 2 433 416 41d 1 436 41f 420 1 43f 423 429 1 443 42b 42f 1 44b 460 460 1 461 464 480 2
    465 48a 4be 2 48b 4c0 4c0 1 4cf 4c1 4cd 2 4c2 4d0 52e 2 4d1 531 556 1 561 10a0 10c5 1 2d00
    10c7 10c7 1 2d27 10cd 10cd 1 2d2d 10d0 10fa 1 1c90 10fd 10ff 1 1cbd 13a0 13ef 1 ab70 13f0
    13f5 1 13f8 1c89 1c89 1 1c8a 1d79 1d79 1 a77d 1d7d 1d7d 1 2c63 1d8e 1d8e 1 a7c6 1e00 1e5e 2
    1e01 1e62 1e94 2 1e63 1ea0 1efe 2 1ea1 1f00 1f07 1 1f08 1f10 1f15 1 1f18 1f20 1f27 1 1f28
    1f30 1f37 1 1f38 1f40 1f45 1 1f48 1f51 1f57 2 1f59 1f60 1f67 1 1f68 1f70 1f71 1 1fba 1f72
    1f75 1 1fc8 1f76 1f77 1 1fda 1f78 1f79 1 1ff8 1f7a 1f7b 1 1fea 1f7c 1f7d 1 1ffa 1f80 1f87 1
    1f88 1f90 1f97 1 1f98 1fa0 1fa7 1 1fa8 1fb0 1fb1 1 1fb8 1fb3 1fb3 1 1fbc 1fc3 1fc3 1 1fcc
    1fd0 1fd1 1 1fd8 1fe0 1fe1 1 1fe8 1fe5 1fe5 1 1fec 1ff3 1ff3 1 1ffc 2132 2132 1 214e 2160
    216f 1 2170 2183 2183 1 2184 24b6 24cf 1 24d0 2c00 2c2f 1 2c30 2c60 2c60 1 2c61 2c67 2c6b 2
    2c68 2c72 2c72 1 2c73 2c75 2c75 1 2c76 2c80 2ce2 2 2c81 2ceb 2ced 2 2cec 2cf2 2cf2 1 2cf3
    a640 a648 2 a641 a64c a66c 2 a64d a680 a69a 2 a681 a722 a72e 2 a723 a732 a76e 2 a733 a779
    a77b 2 a77a a77e a786 2 a77f a78b a78b 1 a78c a790 a792 2 a791 a794 a794 1 a7c4 a796 a7a8 2
    a797 a7b3 a7b3 1 ab53 a7b4 a7c2 2 a7b5 a7c7 a7c9 2 a7c8 a7cc a7da 2 a7cd a7f5 a7f5 1 a7f6
    fb05 fb05 1 fb06 ff21 ff3a 1 ff41 10400 10427 1 10428 104b0 104d3 1 104d8 10570 1057a 1
    10597 1057c 1058a 1 105a3 1058c 10592 1 105b3 10594 10595 1 105bb 10c80 10cb2 1 10cc0 10d50
    10d65 1 10d70 118a0 118bf 1 118c0 16e40 16e5f 1 16e60 16ea0 16eb8 1 16ebb 1e900 1e921 1
    1e922"

/-- The orbits of more than two characters. -/
def foldingGroups : List (List Nat) := [
  [0x4b, 0x6b, 0x212a],
  [0x53, 0x73, 0x17f],
  [0xb5, 0x39c, 0x3bc],
  [0xc5, 0xe5, 0x212b],
  [0x1c4, 0x1c5, 0x1c6],
  [0x1c7, 0x1c8, 0x1c9],
  [0x1ca, 0x1cb, 0x1cc],
  [0x1f1, 0x1f2, 0x1f3],
  [0x345, 0x399, 0x3b9, 0x1fbe],
  [0x392, 0x3b2, 0x3d0],
  [0x395, 0x3b5, 0x3f5],
  [0x398, 0x3b8, 0x3d1, 0x3f4],
  [0x39a, 0x3ba, 0x3f0],
  [0x3a0, 0x3c0, 0x3d6],
  [0x3a1, 0x3c1, 0x3f1],
  [0x3a3, 0x3c2, 0x3c3],
  [0x3a6, 0x3c6, 0x3d5],
  [0x3a9, 0x3c9, 0x2126],
  [0x412, 0x432, 0x1c80],
  [0x414, 0x434, 0x1c81],
  [0x41e, 0x43e, 0x1c82],
  [0x421, 0x441, 0x1c83],
  [0x422, 0x442, 0x1c84, 0x1c85],
  [0x42a, 0x44a, 0x1c86],
  [0x462, 0x463, 0x1c87],
  [0x1c88, 0xa64a, 0xa64b],
  [0x1e60, 0x1e61, 0x1e9b]]

/-- The orbits, each as the list of its code points. -/
def foldingOrbits : List (List Nat) :=
  foldingGroups ++ foldingPairs.flatMap fun s => s.pairs.map fun (a, b) => [a, b]

/-- The characters that fold to the same character as `c`, none when `c` stands alone. -/
def orbit (c : Char) : List Char :=
  match foldingOrbits.find? (·.contains c.toNat) with
  | some ns => ns.map Char.ofNat
  | none => []

/-- **Closing a set under case folding.** Every orbit that meets the set is added to it. -/
def closeUnderFolding (s : CharSet) : CharSet :=
  foldingOrbits.foldl (fun t ns =>
    if ns.any (holds false s.cuts ·) && !ns.all (holds false s.cuts ·) then
      ns.foldl (fun t n => t.union (.single (Char.ofNat n))) t
    else t) s

/-- The same with the letters of ASCII as the only characters that have case. -/
def closeUnderAsciiFolding (s : CharSet) : CharSet :=
  (List.range 26).foldl (fun t i =>
    let upper := Char.ofNat (0x41 + i)
    let lower := Char.ofNat (0x61 + i)
    if s.contains upper || s.contains lower then (t.union (.single upper)).union (.single lower)
    else t) s

end RuleLexer.Unicode
