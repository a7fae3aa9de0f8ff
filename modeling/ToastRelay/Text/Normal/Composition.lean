import ToastRelay.Text.Ranges

/-!
# Canonical compositions

The pairs of characters that compose to one, in ascending order. An entry holds the number of the
pair, which is the first character times 2^21 plus the second, and the composed character.
-/

namespace ToastRelay.Text
set_option autoImplicit false

def compositionTable : Array (Range Nat) := Range.readTable (numberOf 16)
  "7800338=226e 7a00338=2260 7c00338=226f 8200300=c0 8200301=c1 8200302=c2 8200303=c3
   8200304=100 8200306=102 8200307=226 8200308=c4 8200309=1ea2 820030a=c5 820030c=1cd
   820030f=200 8200311=202 8200323=1ea0 8200325=1e00 8200328=104 8400307=1e02 8400323=1e04
   8400331=1e06 8600301=106 8600302=108 8600307=10a 860030c=10c 8600327=c7 8800307=1e0a
   880030c=10e 8800323=1e0c 8800327=1e10 880032d=1e12 8800331=1e0e 8a00300=c8 8a00301=c9
   8a00302=ca 8a00303=1ebc 8a00304=112 8a00306=114 8a00307=116 8a00308=cb 8a00309=1eba
   8a0030c=11a 8a0030f=204 8a00311=206 8a00323=1eb8 8a00327=228 8a00328=118 8a0032d=1e18
   8a00330=1e1a 8c00307=1e1e 8e00301=1f4 8e00302=11c 8e00304=1e20 8e00306=11e 8e00307=120
   8e0030c=1e6 8e00327=122 9000302=124 9000307=1e22 9000308=1e26 900030c=21e 9000323=1e24
   9000327=1e28 900032e=1e2a 9200300=cc 9200301=cd 9200302=ce 9200303=128 9200304=12a
   9200306=12c 9200307=130 9200308=cf 9200309=1ec8 920030c=1cf 920030f=208 9200311=20a
   9200323=1eca 9200328=12e 9200330=1e2c 9400302=134 9600301=1e30 960030c=1e8 9600323=1e32
   9600327=136 9600331=1e34 9800301=139 980030c=13d 9800323=1e36 9800327=13b 980032d=1e3c
   9800331=1e3a 9a00301=1e3e 9a00307=1e40 9a00323=1e42 9c00300=1f8 9c00301=143 9c00303=d1
   9c00307=1e44 9c0030c=147 9c00323=1e46 9c00327=145 9c0032d=1e4a 9c00331=1e48 9e00300=d2
   9e00301=d3 9e00302=d4 9e00303=d5 9e00304=14c 9e00306=14e 9e00307=22e 9e00308=d6 9e00309=1ece
   9e0030b=150 9e0030c=1d1 9e0030f=20c 9e00311=20e 9e0031b=1a0 9e00323=1ecc 9e00328=1ea
   a000301=1e54 a000307=1e56 a400301=154 a400307=1e58 a40030c=158 a40030f=210 a400311=212
   a400323=1e5a a400327=156 a400331=1e5e a600301=15a a600302=15c a600307=1e60 a60030c=160
   a600323=1e62 a600326=218 a600327=15e a800307=1e6a a80030c=164 a800323=1e6c a800326=21a
   a800327=162 a80032d=1e70 a800331=1e6e aa00300=d9 aa00301=da aa00302=db aa00303=168
   aa00304=16a aa00306=16c aa00308=dc aa00309=1ee6 aa0030a=16e aa0030b=170 aa0030c=1d3
   aa0030f=214 aa00311=216 aa0031b=1af aa00323=1ee4 aa00324=1e72 aa00328=172 aa0032d=1e76
   aa00330=1e74 ac00303=1e7c ac00323=1e7e ae00300=1e80 ae00301=1e82 ae00302=174 ae00307=1e86
   ae00308=1e84 ae00323=1e88 b000307=1e8a b000308=1e8c b200300=1ef2 b200301=dd b200302=176
   b200303=1ef8 b200304=232 b200307=1e8e b200308=178 b200309=1ef6 b200323=1ef4 b400301=179
   b400302=1e90 b400307=17b b40030c=17d b400323=1e92 b400331=1e94 c200300=e0 c200301=e1
   c200302=e2 c200303=e3 c200304=101 c200306=103 c200307=227 c200308=e4 c200309=1ea3 c20030a=e5
   c20030c=1ce c20030f=201 c200311=203 c200323=1ea1 c200325=1e01 c200328=105 c400307=1e03
   c400323=1e05 c400331=1e07 c600301=107 c600302=109 c600307=10b c60030c=10d c600327=e7
   c800307=1e0b c80030c=10f c800323=1e0d c800327=1e11 c80032d=1e13 c800331=1e0f ca00300=e8
   ca00301=e9 ca00302=ea ca00303=1ebd ca00304=113 ca00306=115 ca00307=117 ca00308=eb
   ca00309=1ebb ca0030c=11b ca0030f=205 ca00311=207 ca00323=1eb9 ca00327=229 ca00328=119
   ca0032d=1e19 ca00330=1e1b cc00307=1e1f ce00301=1f5 ce00302=11d ce00304=1e21 ce00306=11f
   ce00307=121 ce0030c=1e7 ce00327=123 d000302=125 d000307=1e23 d000308=1e27 d00030c=21f
   d000323=1e25 d000327=1e29 d00032e=1e2b d000331=1e96 d200300=ec d200301=ed d200302=ee
   d200303=129 d200304=12b d200306=12d d200308=ef d200309=1ec9 d20030c=1d0 d20030f=209
   d200311=20b d200323=1ecb d200328=12f d200330=1e2d d400302=135 d40030c=1f0 d600301=1e31
   d60030c=1e9 d600323=1e33 d600327=137 d600331=1e35 d800301=13a d80030c=13e d800323=1e37
   d800327=13c d80032d=1e3d d800331=1e3b da00301=1e3f da00307=1e41 da00323=1e43 dc00300=1f9
   dc00301=144 dc00303=f1 dc00307=1e45 dc0030c=148 dc00323=1e47 dc00327=146 dc0032d=1e4b
   dc00331=1e49 de00300=f2 de00301=f3 de00302=f4 de00303=f5 de00304=14d de00306=14f de00307=22f
   de00308=f6 de00309=1ecf de0030b=151 de0030c=1d2 de0030f=20d de00311=20f de0031b=1a1
   de00323=1ecd de00328=1eb e000301=1e55 e000307=1e57 e400301=155 e400307=1e59 e40030c=159
   e40030f=211 e400311=213 e400323=1e5b e400327=157 e400331=1e5f e600301=15b e600302=15d
   e600307=1e61 e60030c=161 e600323=1e63 e600326=219 e600327=15f e800307=1e6b e800308=1e97
   e80030c=165 e800323=1e6d e800326=21b e800327=163 e80032d=1e71 e800331=1e6f ea00300=f9
   ea00301=fa ea00302=fb ea00303=169 ea00304=16b ea00306=16d ea00308=fc ea00309=1ee7 ea0030a=16f
   ea0030b=171 ea0030c=1d4 ea0030f=215 ea00311=217 ea0031b=1b0 ea00323=1ee5 ea00324=1e73
   ea00328=173 ea0032d=1e77 ea00330=1e75 ec00303=1e7d ec00323=1e7f ee00300=1e81 ee00301=1e83
   ee00302=175 ee00307=1e87 ee00308=1e85 ee0030a=1e98 ee00323=1e89 f000307=1e8b f000308=1e8d
   f200300=1ef3 f200301=fd f200302=177 f200303=1ef9 f200304=233 f200307=1e8f f200308=ff
   f200309=1ef7 f20030a=1e99 f200323=1ef5 f400301=17a f400302=1e91 f400307=17c f40030c=17e
   f400323=1e93 f400331=1e95 15000300=1fed 15000301=385 15000342=1fc1 18400300=1ea6
   18400301=1ea4 18400303=1eaa 18400309=1ea8 18800304=1de 18a00301=1fa 18c00301=1fc 18c00304=1e2
   18e00301=1e08 19400300=1ec0 19400301=1ebe 19400303=1ec4 19400309=1ec2 19e00301=1e2e
   1a800300=1ed2 1a800301=1ed0 1a800303=1ed6 1a800309=1ed4 1aa00301=1e4c 1aa00304=22c
   1aa00308=1e4e 1ac00304=22a 1b000301=1fe 1b800300=1db 1b800301=1d7 1b800304=1d5 1b80030c=1d9
   1c400300=1ea7 1c400301=1ea5 1c400303=1eab 1c400309=1ea9 1c800304=1df 1ca00301=1fb
   1cc00301=1fd 1cc00304=1e3 1ce00301=1e09 1d400300=1ec1 1d400301=1ebf 1d400303=1ec5
   1d400309=1ec3 1de00301=1e2f 1e800300=1ed3 1e800301=1ed1 1e800303=1ed7 1e800309=1ed5
   1ea00301=1e4d 1ea00304=22d 1ea00308=1e4f 1ec00304=22b 1f000301=1ff 1f800300=1dc 1f800301=1d8
   1f800304=1d6 1f80030c=1da 20400300=1eb0 20400301=1eae 20400303=1eb4 20400309=1eb2
   20600300=1eb1 20600301=1eaf 20600303=1eb5 20600309=1eb3 22400300=1e14 22400301=1e16
   22600300=1e15 22600301=1e17 29800300=1e50 29800301=1e52 29a00300=1e51 29a00301=1e53
   2b400307=1e64 2b600307=1e65 2c000307=1e66 2c200307=1e67 2d000301=1e78 2d200301=1e79
   2d400308=1e7a 2d600308=1e7b 2fe00307=1e9b 34000300=1edc 34000301=1eda 34000303=1ee0
   34000309=1ede 34000323=1ee2 34200300=1edd 34200301=1edb 34200303=1ee1 34200309=1edf
   34200323=1ee3 35e00300=1eea 35e00301=1ee8 35e00303=1eee 35e00309=1eec 35e00323=1ef0
   36000300=1eeb 36000301=1ee9 36000303=1eef 36000309=1eed 36000323=1ef1 36e0030c=1ee
   3d400304=1ec 3d600304=1ed 44c00304=1e0 44e00304=1e1 45000306=1e1c 45200306=1e1d 45c00304=230
   45e00304=231 5240030c=1ef 72200300=1fba 72200301=386 72200304=1fb9 72200306=1fb8
   72200313=1f08 72200314=1f09 72200345=1fbc 72a00300=1fc8 72a00301=388 72a00313=1f18
   72a00314=1f19 72e00300=1fca 72e00301=389 72e00313=1f28 72e00314=1f29 72e00345=1fcc
   73200300=1fda 73200301=38a 73200304=1fd9 73200306=1fd8 73200308=3aa 73200313=1f38
   73200314=1f39 73e00300=1ff8 73e00301=38c 73e00313=1f48 73e00314=1f49 74200314=1fec
   74a00300=1fea 74a00301=38e 74a00304=1fe9 74a00306=1fe8 74a00308=3ab 74a00314=1f59
   75200300=1ffa 75200301=38f 75200313=1f68 75200314=1f69 75200345=1ffc 75800345=1fb4
   75c00345=1fc4 76200300=1f70 76200301=3ac 76200304=1fb1 76200306=1fb0 76200313=1f00
   76200314=1f01 76200342=1fb6 76200345=1fb3 76a00300=1f72 76a00301=3ad 76a00313=1f10
   76a00314=1f11 76e00300=1f74 76e00301=3ae 76e00313=1f20 76e00314=1f21 76e00342=1fc6
   76e00345=1fc3 77200300=1f76 77200301=3af 77200304=1fd1 77200306=1fd0 77200308=3ca
   77200313=1f30 77200314=1f31 77200342=1fd6 77e00300=1f78 77e00301=3cc 77e00313=1f40
   77e00314=1f41 78200313=1fe4 78200314=1fe5 78a00300=1f7a 78a00301=3cd 78a00304=1fe1
   78a00306=1fe0 78a00308=3cb 78a00313=1f50 78a00314=1f51 78a00342=1fe6 79200300=1f7c
   79200301=3ce 79200313=1f60 79200314=1f61 79200342=1ff6 79200345=1ff3 79400300=1fd2
   79400301=390 79400342=1fd7 79600300=1fe2 79600301=3b0 79600342=1fe7 79c00345=1ff4
   7a400301=3d3 7a400308=3d4 80c00308=407 82000306=4d0 82000308=4d2 82600301=403 82a00300=400
   82a00306=4d6 82a00308=401 82c00306=4c1 82c00308=4dc 82e00308=4de 83000300=40d 83000304=4e2
   83000306=419 83000308=4e4 83400301=40c 83c00308=4e6 84600304=4ee 84600306=40e 84600308=4f0
   8460030b=4f2 84e00308=4f4 85600308=4f8 85a00308=4ec 86000306=4d1 86000308=4d3 86600301=453
   86a00300=450 86a00306=4d7 86a00308=451 86c00306=4c2 86c00308=4dd 86e00308=4df 87000300=45d
   87000304=4e3 87000306=439 87000308=4e5 87400301=45c 87c00308=4e7 88600304=4ef 88600306=45e
   88600308=4f1 8860030b=4f3 88e00308=4f5 89600308=4f9 89a00308=4ed 8ac00308=457 8e80030f=476
   8ea0030f=477 9b000308=4da 9b200308=4db 9d000308=4ea 9d200308=4eb c4e00653=622 c4e00654=623
   c4e00655=625 c9000654=624 c9400654=626 d8200654=6c2 da400654=6d3 daa00654=6c0 12500093c=929
   12600093c=931 12660093c=934 138e009be=9cb 138e009d7=9cc 168e00b3e=b4b 168e00b56=b48
   168e00b57=b4c 172400bd7=b94 178c00bbe=bca 178c00bd7=bcc 178e00bbe=bcb 188c00c56=c48
   197e00cd5=cc0 198c00cc2=cca 198c00cd5=cc7 198c00cd6=cc8 199400cd5=ccb 1a8c00d3e=d4a
   1a8c00d57=d4c 1a8e00d3e=d4b 1bb200dca=dda 1bb200dcf=ddc 1bb200ddf=dde 1bb800dca=ddd
   204a0102e=1026 360a01b35=1b06 360e01b35=1b08 361201b35=1b0a 361601b35=1b0c 361a01b35=1b0e
   362201b35=1b12 367401b35=1b3b 367801b35=1b3d 367c01b35=1b40 367e01b35=1b41 368401b35=1b43
   3c6c00304=1e38 3c6e00304=1e39 3cb400304=1e5c 3cb600304=1e5d 3cc400307=1e68 3cc600307=1e69
   3d4000302=1eac 3d4000306=1eb6 3d4200302=1ead 3d4200306=1eb7 3d7000302=1ec6 3d7200302=1ec7
   3d9800302=1ed8 3d9a00302=1ed9 3e0000300=1f02 3e0000301=1f04 3e0000342=1f06 3e0000345=1f80
   3e0200300=1f03 3e0200301=1f05 3e0200342=1f07 3e0200345=1f81 3e0400345=1f82 3e0600345=1f83
   3e0800345=1f84 3e0a00345=1f85 3e0c00345=1f86 3e0e00345=1f87 3e1000300=1f0a 3e1000301=1f0c
   3e1000342=1f0e 3e1000345=1f88 3e1200300=1f0b 3e1200301=1f0d 3e1200342=1f0f 3e1200345=1f89
   3e1400345=1f8a 3e1600345=1f8b 3e1800345=1f8c 3e1a00345=1f8d 3e1c00345=1f8e 3e1e00345=1f8f
   3e2000300=1f12 3e2000301=1f14 3e2200300=1f13 3e2200301=1f15 3e3000300=1f1a 3e3000301=1f1c
   3e3200300=1f1b 3e3200301=1f1d 3e4000300=1f22 3e4000301=1f24 3e4000342=1f26 3e4000345=1f90
   3e4200300=1f23 3e4200301=1f25 3e4200342=1f27 3e4200345=1f91 3e4400345=1f92 3e4600345=1f93
   3e4800345=1f94 3e4a00345=1f95 3e4c00345=1f96 3e4e00345=1f97 3e5000300=1f2a 3e5000301=1f2c
   3e5000342=1f2e 3e5000345=1f98 3e5200300=1f2b 3e5200301=1f2d 3e5200342=1f2f 3e5200345=1f99
   3e5400345=1f9a 3e5600345=1f9b 3e5800345=1f9c 3e5a00345=1f9d 3e5c00345=1f9e 3e5e00345=1f9f
   3e6000300=1f32 3e6000301=1f34 3e6000342=1f36 3e6200300=1f33 3e6200301=1f35 3e6200342=1f37
   3e7000300=1f3a 3e7000301=1f3c 3e7000342=1f3e 3e7200300=1f3b 3e7200301=1f3d 3e7200342=1f3f
   3e8000300=1f42 3e8000301=1f44 3e8200300=1f43 3e8200301=1f45 3e9000300=1f4a 3e9000301=1f4c
   3e9200300=1f4b 3e9200301=1f4d 3ea000300=1f52 3ea000301=1f54 3ea000342=1f56 3ea200300=1f53
   3ea200301=1f55 3ea200342=1f57 3eb200300=1f5b 3eb200301=1f5d 3eb200342=1f5f 3ec000300=1f62
   3ec000301=1f64 3ec000342=1f66 3ec000345=1fa0 3ec200300=1f63 3ec200301=1f65 3ec200342=1f67
   3ec200345=1fa1 3ec400345=1fa2 3ec600345=1fa3 3ec800345=1fa4 3eca00345=1fa5 3ecc00345=1fa6
   3ece00345=1fa7 3ed000300=1f6a 3ed000301=1f6c 3ed000342=1f6e 3ed000345=1fa8 3ed200300=1f6b
   3ed200301=1f6d 3ed200342=1f6f 3ed200345=1fa9 3ed400345=1faa 3ed600345=1fab 3ed800345=1fac
   3eda00345=1fad 3edc00345=1fae 3ede00345=1faf 3ee000345=1fb2 3ee800345=1fc2 3ef800345=1ff2
   3f6c00345=1fb7 3f7e00300=1fcd 3f7e00301=1fce 3f7e00342=1fcf 3f8c00345=1fc7 3fec00345=1ff7
   3ffc00300=1fdd 3ffc00301=1fde 3ffc00342=1fdf 432000338=219a 432400338=219b 432800338=21ae
   43a000338=21cd 43a400338=21cf 43a800338=21ce 440600338=2204 441000338=2209 441600338=220c
   444600338=2224 444a00338=2226 447800338=2241 448600338=2244 448a00338=2247 449000338=2249
   449a00338=226d 44c200338=2262 44c800338=2270 44ca00338=2271 44e400338=2274 44e600338=2275
   44ec00338=2278 44ee00338=2279 44f400338=2280 44f600338=2281 44f800338=22e0 44fa00338=22e1
   450400338=2284 450600338=2285 450c00338=2288 450e00338=2289 452200338=22e2 452400338=22e3
   454400338=22ac 455000338=22ad 455200338=22ae 455600338=22af 456400338=22ea 456600338=22eb
   456800338=22ec 456a00338=22ed 608c03099=3094 609603099=304c 609a03099=304e 609e03099=3050
   60a203099=3052 60a603099=3054 60aa03099=3056 60ae03099=3058 60b203099=305a 60b603099=305c
   60ba03099=305e 60be03099=3060 60c203099=3062 60c803099=3065 60cc03099=3067 60d003099=3069
   60de03099=3070 60de0309a=3071 60e403099=3073 60e40309a=3074 60ea03099=3076 60ea0309a=3077
   60f003099=3079 60f00309a=307a 60f603099=307c 60f60309a=307d 613a03099=309e 614c03099=30f4
   615603099=30ac 615a03099=30ae 615e03099=30b0 616203099=30b2 616603099=30b4 616a03099=30b6
   616e03099=30b8 617203099=30ba 617603099=30bc 617a03099=30be 617e03099=30c0 618203099=30c2
   618803099=30c5 618c03099=30c7 619003099=30c9 619e03099=30d0 619e0309a=30d1 61a403099=30d3
   61a40309a=30d4 61aa03099=30d6 61aa0309a=30d7 61b003099=30d9 61b00309a=30da 61b603099=30dc
   61b60309a=30dd 61de03099=30f7 61e003099=30f8 61e203099=30f9 61e403099=30fa 61fa03099=30fe
   20ba400307=105c9 20bb400307=105e4 22132110ba=1109a 22136110ba=1109c 2214a110ba=110ab
   2226211127=1112e 2226411127=1112f 2268e1133e=1134b 2268e11357=1134c 22704113c9=11383
   22708113bb=11385 22716113c2=1138e 22720113c9=11391 22784113b8=113c7 22784113c2=113c5
   22784113c9=113c8 22972114b0=114bc 22972114ba=114bb 22972114bd=114be 22b70115af=115ba
   22b72115af=115bb 2326a11930=11938 2c23c1611e=16121 2c23c1611f=16123 2c23c16120=16125
   2c23c16129=16122 2c2421611f=16126 2c24216120=16128 2c2441611f=16127 2c2521611f=16124
   2dac616d67=16d69 2dace16d67=16d68 2dad216d67=16d6a"

def listedComposition (a b : Char) : Option Char :=
  (Range.find? compositionTable (a.toNat * 2097152 + b.toNat)).map fun r => Char.ofNat r.value

end ToastRelay.Text
