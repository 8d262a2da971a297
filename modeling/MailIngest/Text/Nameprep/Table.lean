/-!
# Nameprep tables

The data of the Unicode 3.2 string preparation profile for domain names, each table a list of
rows of records. A record is a few hexadecimal numbers joined by dots, and records are separated
by spaces; `Nameprep.records` reads them. Runs are written short: `+` is the record after the one
before it, with its first and last numbers one higher, `*n` stands for `n` such records, `=` and
`/n` do the same with numbers two higher, and a record that starts with a dot leaves out its
first number, one higher than the one before.

* `foldingRows`: a code point, then the code points it is mapped to when case is folded.
* `decompositionRows`: a code point assigned in Unicode 3.2, then its full compatibility
  decomposition in canonical order; Hangul syllables are left out, as they decompose by rule.
* `combiningRows`: first and last code point of a run, then the combining class they share.
* `compositionRows`: two code points, then the primary composite they make.
* `leftToRightRows`: first and last code point of a run of left-to-right characters.
-/

namespace MailIngest.Text.Nameprep

def foldingRows : List String := [
  "41.61 *25 B5.3BC C0.E0 *22 = *6 .73.73 100.101 /23 130.69.307 132.133 /2 139.13A /7 149.2BC.6E .14B /6",
  "/16 178.FF .17A /2 17F.73 181.253 .183 = 186.254 .188 189.256 + .18C 18E.1DD .259 .25B .192 193.260 .263 196.269 .268 .199 19C.26F .272 19F.275 .1A1 /2 1A6.280 .1A8 1A9.283 1AC.1AD 1AE.288 .1B0 1B1.28A + .1B4 = 1B7.292 .1B9 1BC.1BD",
  "1C4.1C6 .1C6 1C7.1C9 .1C9 1CA.1CC .1CC /8 1DE.1DF /8 1F0.6A.30C .1F3 .1F3 = 1F6.195 .1BF .1F9 /19 220.19E 222.223 =",
  "/7 23A.2C65 .23C 23D.19A .2C66 241.242 243.180 .289 .28C .247 /4 345.3B9 370.371 = 376.377 37A.20.3B9 37F.3F3 386.3AC 388.3AD *2 38C.3CC 38E.3CD + .3B9.308.301 .3B1 *16 = *8 3B0.3C5.308.301 3C2.3C3 3CF.3D7 .3B2 .3B8 .3C5 .3CD .3CB .3C6 .3C0 3D8.3D9 /7",
  "/4 3F0.3BA .3C1 .3C3 3F4.3B8 .3B5 3F7.3F8 3F9.3C3 .3FB 3FD.37B *2 .450 *15 .430 *31 460.461 /16 48A.48B /18",
  "/8 4C0.4CF .4C2 /6 4D0.4D1 /33",
  "/14 531.561 *37 587.565.582 10A0.2D00 *37 = 10CD.2D2D 13A0.AB70 *79 .13F8 *5 1C90.10D0 *42 1CBD.10FD *2 1E00.1E01 /17",
  "/40",
  "/17 1E96.68.331 .74.308 .77.30A .79.30A .61.2BE .1E61 1E9E.73.73 1EA0.1EA1 /16",
  "/31 1F08.1F00 *7 1F18.1F10 *5 1F28.1F20 *7 1F38.1F30 *7 1F48.1F40 *5 1F50.3C5.313",
  "1F52.3C5.313.300 1F54.3C5.313.301 1F56.3C5.313.342 1F59.1F51 /3 1F68.1F60 *7 1F80.1F00.3B9 .1F01.3B9 .1F02.3B9 .1F03.3B9 .1F04.3B9 .1F05.3B9 .1F06.3B9 .1F07.3B9 .1F00.3B9 .1F01.3B9 .1F02.3B9 .1F03.3B9 .1F04.3B9 .1F05.3B9 .1F06.3B9 .1F07.3B9 .1F20.3B9 .1F21.3B9 .1F22.3B9 .1F23.3B9 .1F24.3B9 .1F25.3B9 .1F26.3B9 .1F27.3B9 .1F20.3B9 .1F21.3B9 .1F22.3B9 .1F23.3B9 .1F24.3B9",
  ".1F25.3B9 .1F26.3B9 .1F27.3B9 .1F60.3B9 .1F61.3B9 .1F62.3B9 .1F63.3B9 .1F64.3B9 .1F65.3B9 .1F66.3B9 .1F67.3B9 .1F60.3B9 .1F61.3B9 .1F62.3B9 .1F63.3B9 .1F64.3B9 .1F65.3B9 .1F66.3B9 .1F67.3B9 1FB2.1F70.3B9 .3B1.3B9 .3AC.3B9 1FB6.3B1.342 .3B1.342.3B9 .1FB0 + .1F70 + .3B1.3B9 1FBE.3B9 1FC2.1F74.3B9 .3B7.3B9 .3AE.3B9 1FC6.3B7.342 .3B7.342.3B9 .1F72 *3 .3B7.3B9 1FD2.3B9.308.300 + 1FD6.3B9.342",
  ".3B9.308.342 .1FD0 + .1F76 + 1FE2.3C5.308.300 + .3C1.313 1FE6.3C5.342 .3C5.308.342 .1FE0 + .1F7A + .1FE5 1FF2.1F7C.3B9 .3C9.3B9 .3CE.3B9 1FF6.3C9.342 .3C9.342.3B9 .1F78 + .1F7C + .3C9.3B9 20A8.72.73 2102.63 .B0.63 2107.25B 2109.B0.66 210B.68 .68 .68 2110.69 .69 .6C 2115.6E .6E.6F 2119.70 *2 .72 .72 2120.73.6D .74.65.6C .74.6D 2124.7A 2126.3C9 2128.7A 212A.6B .E5 .62 + 2130.65 + .214E .6D 213E.3B3",
  ".3C0 2145.64 2160.2170 *15 2183.2184 24B6.24D0 *25 2C00.2C30 *47 2C60.2C61 2C62.26B .1D7D .27D 2C67.2C68 /2 2C6D.251 .271 .250 .252 2C72.2C73 2C75.2C76 2C7E.23F + .2C81 /21",
  "/28 2CEB.2CEC = 2CF2.2CF3 3371.68.70.61 3373.61.75 3375.6F.76 3380.70.61 .6E.61 .3BC.61 .6D.61 .6B.61 + .6D.62",
  ".67.62 338A.70.66 .6E.66 .3BC.66 3390.68.7A .6B.68.7A .6D.68.7A .67.68.7A .74.68.7A 33A9.70.61 .6B.70.61 .6D.70.61 .67.70.61 33B4.70.76 .6E.76 .3BC.76 .6D.76 .6B.76 .6D.76 .70.77 .6E.77 .3BC.77 .6D.77 .6B.77 .6D.77 .6B.3C9 .6D.3C9 33C3.62.71 33C6.63.2215.6B.67 .63.6F.2E .64.62 .67.79 33CB.68.70 33CD.6B.6B .6B.6D 33D7.70.68 33D9.70.70.6D .70.72 33DC.73.76 .77.62 A640.A641 /2",
  "/20 A680.A681 /13 A722.A723 /5",
  "= A732.A733 /30 A779.A77A = A77D.1D79 .A77F /4",
  "A78B.A78C A78D.265 A790.A791 = A796.A797 /9 A7AA.266 .25C .261 .26C .26A A7B0.29E .287 .29D .AB53 .A7B5 /7 A7C4.A794 .282 .1D8E .A7C8 = A7D0.A7D1 A7D6.A7D7 = A7F5.A7F6 FB00.66.66 .66.69 .66.6C .66.66.69 .66.66.6C .73.74",
  ".73.74 FB13.574.576 .574.565 .574.56B .57E.576 .574.56D FF21.FF41 *25 10400.10428 *39 104B0.104D8 *35 10570.10597 *10 = *14 = *6 = + 10C80.10CC0 *50 118A0.118C0 *31 16E40.16E60 *31 1D400.61 *25 1D434.61 *25 1D468.61 *25 1D49C.61 = + 1D4A2.67 1D4A5.6A + 1D4A9.6E *3 = *7 1D4D0.61 *25 1D504.61 + = *3 1D50D.6A *7 = *6 1D538.61 + = *3",
  "= *4 = 1D54A.73 *6 1D56C.61 *25 1D5A0.61 *25 1D5D4.61 *25 1D608.61 *25 1D63C.61 *25 1D670.61 *25 1D6A8.3B1 *16 .3B8 .3C3 *6 1D6D3.3C3 1D6E2.3B1 *16 .3B8 .3C3 *6 1D70D.3C3 1D71C.3B1 *16 .3B8 .3C3 *6 1D747.3C3 1D756.3B1 *16 .3B8 .3C3 *6 1D781.3C3 1D790.3B1 *16 .3B8 .3C3 *6 1D7BB.3C3 1E900.1E922 *33"]

/-- Compatibility decompositions of the code points assigned in Unicode 3.2. -/
def decompositionRows : List String := [
  "A0.20 A8.20.308 AA.61 AF.20.304 B2.32 + .20.301 .3BC B8.20.327 .31 .6F BC.31.2044.34 .31.2044.32 .33.2044.34 C0.41.300 *3 .41.308 .41.30A C7.43.327 .45.300 *2 .45.308 .49.300 *2 .49.308 D1.4E.303 .4F.300 *3 .4F.308 D9.55.300 *2 .55.308 .59.301 E0.61.300 *3 .61.308 .61.30A E7.63.327 .65.300 *2 .65.308 .69.300 *2 .69.308 F1.6E.303 .6F.300 *3 .6F.308 F9.75.300 *2 .75.308 .79.301 FF.79.308 .41.304",
  ".61.304 .41.306 .61.306 .41.328 .61.328 .43.301 .63.301 .43.302 .63.302 .43.307 .63.307 .43.30C .63.30C .44.30C .64.30C 112.45.304 .65.304 .45.306 .65.306 .45.307 .65.307 .45.328 .65.328 .45.30C .65.30C .47.302 .67.302 .47.306 .67.306 .47.307 .67.307 .47.327 .67.327 .48.302 .68.302 128.49.303 .69.303 .49.304 .69.304 .49.306 .69.306 .49.328 .69.328 .49.307 132.49.4A .69.6A .4A.302 .6A.302 .4B.327",
  ".6B.327 139.4C.301 .6C.301 .4C.327 .6C.327 .4C.30C .6C.30C .4C.B7 .6C.B7 143.4E.301 .6E.301 .4E.327 .6E.327 .4E.30C .6E.30C .2BC.6E 14C.4F.304 .6F.304 .4F.306 .6F.306 .4F.30B .6F.30B 154.52.301 .72.301 .52.327 .72.327 .52.30C .72.30C .53.301 .73.301 .53.302 .73.302 .53.327 .73.327 .53.30C .73.30C .54.327 .74.327 .54.30C .74.30C 168.55.303 .75.303 .55.304 .75.304 .55.306 .75.306 .55.30A .75.30A",
  ".55.30B .75.30B .55.328 .75.328 .57.302 .77.302 .59.302 .79.302 .59.308 .5A.301 .7A.301 .5A.307 .7A.307 .5A.30C .7A.30C .73 1A0.4F.31B .6F.31B 1AF.55.31B .75.31B 1C4.44.5A.30C .44.7A.30C .64.7A.30C .4C.4A .4C.6A .6C.6A .4E.4A .4E.6A .6E.6A .41.30C .61.30C .49.30C .69.30C .4F.30C .6F.30C .55.30C .75.30C .55.308.304 .75.308.304 .55.308.301 .75.308.301 .55.308.30C .75.308.30C .55.308.300 .75.308.300",
  "1DE.41.308.304 .61.308.304 .41.307.304 .61.307.304 .C6.304 .E6.304 1E6.47.30C .67.30C .4B.30C .6B.30C .4F.328 .6F.328 .4F.328.304 .6F.328.304 .1B7.30C .292.30C .6A.30C .44.5A .44.7A .64.7A .47.301 .67.301 1F8.4E.300 .6E.300 .41.30A.301 .61.30A.301 .C6.301 .E6.301 .D8.301 .F8.301 .41.30F .61.30F .41.311 .61.311 .45.30F .65.30F .45.311 .65.311 .49.30F .69.30F .49.311 .69.311 .4F.30F .6F.30F .4F.311",
  ".6F.311 .52.30F .72.30F .52.311 .72.311 .55.30F .75.30F .55.311 .75.311 .53.326 .73.326 .54.326 .74.326 21E.48.30C .68.30C 226.41.307 .61.307 .45.327 .65.327 .4F.308.304 .6F.308.304 .4F.303.304 .6F.303.304 .4F.307 .6F.307 .4F.307.304 .6F.307.304 .59.304 .79.304 2B0.68 .266 .6A .72 .279 .27B .281 .77 .79 2D8.20.306 + .20.30A .20.328 .20.303 .20.30B 2E0.263 .6C .73 .78 .295 340.300 + 343.313",
  ".308.301 374.2B9 37A.20.345 37E.3B 384.20.301 .20.308.301 .391.301 .B7 .395.301 .397.301 .399.301 38C.39F.301 38E.3A5.301 .3A9.301 .3B9.308.301 3AA.399.308 .3A5.308 .3B1.301 .3B5.301 .3B7.301 .3B9.301 .3C5.308.301 3CA.3B9.308 .3C5.308 .3BF.301 .3C5.301 .3C9.301 3D0.3B2 .3B8 .3A5 .3A5.301 .3A5.308 .3C6 .3C0 3F0.3BA .3C1 + 3F4.398 .3B5 400.415.300 .415.308 403.413.301 407.406.308 40C.41A.301",
  ".418.300 .423.306 419.418.306 439.438.306 450.435.300 .435.308 453.433.301 457.456.308 45C.43A.301 .438.300 .443.306 476.474.30F .475.30F 4C1.416.306 .436.306 4D0.410.306 .430.306 .410.308 .430.308 4D6.415.306 .435.306 4DA.4D8.308 .4D9.308 .416.308 .436.308 .417.308 .437.308 4E2.418.304 .438.304 .418.308 .438.308 .41E.308 .43E.308 4EA.4E8.308 .4E9.308 .42D.308 .44D.308 .423.304 .443.304 .423.308",
  ".443.308 .423.30B .443.30B .427.308 .447.308 4F8.42B.308 .44B.308 587.565.582 622.627.653 + .648.654 .627.655 .64A.654 675.627.674 .648.674 .6C7.674 .64A.674 6C0.6D5.654 6C2.6C1.654 6D3.6D2.654 929.928.93C 931.930.93C 934.933.93C 958.915.93C .916.93C .917.93C .91C.93C .921.93C .922.93C .92B.93C .92F.93C 9CB.9C7.9BE .9C7.9D7 9DC.9A1.9BC .9A2.9BC 9DF.9AF.9BC A33.A32.A3C A36.A38.A3C A59.A16.A3C",
  ".A17.A3C .A1C.A3C A5E.A2B.A3C B48.B47.B56 B4B.B47.B3E .B47.B57 B5C.B21.B3C .B22.B3C B94.B92.BD7 BCA.BC6.BBE .BC7.BBE .BC6.BD7 C48.C46.C56 CC0.CBF.CD5 CC7.CC6.CD5 + CCA.CC6.CC2 .CC6.CC2.CD5 D4A.D46.D3E .D47.D3E .D46.D57 DDA.DD9.DCA DDC.DD9.DCF .DD9.DCF.DCA .DD9.DDF E33.E4D.E32 EB3.ECD.EB2 EDC.EAB.E99 .EAB.EA1 F0C.F0B F43.F42.FB7 F4D.F4C.FB7 F52.F51.FB7 F57.F56.FB7 F5C.F5B.FB7 F69.F40.FB5",
  "F73.F71.F72 = .FB2.F80 .FB2.F71.F80 .FB3.F80 .FB3.F71.F80 F81.F71.F80 F93.F92.FB7 F9D.F9C.FB7 FA2.FA1.FB7 FA7.FA6.FB7 FAC.FAB.FB7 FB9.F90.FB5 1026.1025.102E 1E00.41.325 .61.325 .42.307 .62.307 .42.323 .62.323 .42.331 .62.331 .43.327.301 .63.327.301 .44.307 .64.307 .44.323 .64.323 .44.331 .64.331 .44.327 .64.327 .44.32D .64.32D .45.304.300 .65.304.300 .45.304.301 .65.304.301 .45.32D",
  ".65.32D .45.330 .65.330 .45.327.306 .65.327.306 .46.307 .66.307 .47.304 .67.304 .48.307 .68.307 .48.323 .68.323 .48.308 .68.308 .48.327 .68.327 .48.32E .68.32E .49.330 .69.330 .49.308.301 .69.308.301 .4B.301 .6B.301 .4B.323 .6B.323 .4B.331 .6B.331 .4C.323 .6C.323 .4C.323.304 .6C.323.304 .4C.331 .6C.331 .4C.32D .6C.32D .4D.301 .6D.301 .4D.307 .6D.307 .4D.323 .6D.323 .4E.307 .6E.307 .4E.323 .6E.323",
  ".4E.331 .6E.331 .4E.32D .6E.32D .4F.303.301 .6F.303.301 .4F.303.308 .6F.303.308 .4F.304.300 .6F.304.300 .4F.304.301 .6F.304.301 .50.301 .70.301 .50.307 .70.307 .52.307 .72.307 .52.323 .72.323 .52.323.304 .72.323.304 .52.331 .72.331 .53.307 .73.307 .53.323 .73.323 .53.301.307 .73.301.307 .53.30C.307 .73.30C.307 .53.323.307 .73.323.307 .54.307 .74.307 .54.323 .74.323 .54.331 .74.331 .54.32D .74.32D",
  ".55.324 .75.324 .55.330 .75.330 .55.32D .75.32D .55.303.301 .75.303.301 .55.304.308 .75.304.308 .56.303 .76.303 .56.323 .76.323 .57.300 .77.300 .57.301 .77.301 .57.308 .77.308 .57.307 .77.307 .57.323 .77.323 .58.307 .78.307 .58.308 .78.308 .59.307 .79.307 .5A.302 .7A.302 .5A.323 .7A.323 .5A.331 .7A.331 .68.331 .74.308 .77.30A .79.30A .61.2BE .73.307 1EA0.41.323 .61.323 .41.309 .61.309 .41.302.301",
  ".61.302.301 .41.302.300 .61.302.300 .41.302.309 .61.302.309 .41.302.303 .61.302.303 .41.323.302 .61.323.302 .41.306.301 .61.306.301 .41.306.300 .61.306.300 .41.306.309 .61.306.309 .41.306.303 .61.306.303 .41.323.306 .61.323.306 .45.323 .65.323 .45.309 .65.309 .45.303 .65.303 .45.302.301 .65.302.301 .45.302.300 .65.302.300 .45.302.309 .65.302.309 .45.302.303 .65.302.303 .45.323.302 .65.323.302",
  ".49.309 .69.309 .49.323 .69.323 .4F.323 .6F.323 .4F.309 .6F.309 .4F.302.301 .6F.302.301 .4F.302.300 .6F.302.300 .4F.302.309 .6F.302.309 .4F.302.303 .6F.302.303 .4F.323.302 .6F.323.302 .4F.31B.301 .6F.31B.301 .4F.31B.300 .6F.31B.300 .4F.31B.309 .6F.31B.309 .4F.31B.303 .6F.31B.303 .4F.31B.323 .6F.31B.323 .55.323 .75.323 .55.309 .75.309 .55.31B.301 .75.31B.301 .55.31B.300 .75.31B.300 .55.31B.309",
  ".75.31B.309 .55.31B.303 .75.31B.303 .55.31B.323 .75.31B.323 .59.300 .79.300 .59.323 .79.323 .59.309 .79.309 .59.303 .79.303 1F00.3B1.313 + .3B1.313.300 .3B1.314.300 .3B1.313.301 .3B1.314.301 .3B1.313.342 .3B1.314.342 .391.313 + .391.313.300 .391.314.300 .391.313.301 .391.314.301 .391.313.342 .391.314.342 .3B5.313 + .3B5.313.300 .3B5.314.300 .3B5.313.301 .3B5.314.301 1F18.395.313 + .395.313.300",
  ".395.314.300 .395.313.301 .395.314.301 1F20.3B7.313 + .3B7.313.300 .3B7.314.300 .3B7.313.301 .3B7.314.301 .3B7.313.342 .3B7.314.342 .397.313 + .397.313.300 .397.314.300 .397.313.301 .397.314.301 .397.313.342 .397.314.342 .3B9.313 + .3B9.313.300 .3B9.314.300 .3B9.313.301 .3B9.314.301 .3B9.313.342 .3B9.314.342 .399.313 + .399.313.300 .399.314.300 .399.313.301 .399.314.301 .399.313.342 .399.314.342",
  ".3BF.313 + .3BF.313.300 .3BF.314.300 .3BF.313.301 .3BF.314.301 1F48.39F.313 + .39F.313.300 .39F.314.300 .39F.313.301 .39F.314.301 1F50.3C5.313 + .3C5.313.300 .3C5.314.300 .3C5.313.301 .3C5.314.301 .3C5.313.342 .3C5.314.342 1F59.3A5.314 1F5B.3A5.314.300 1F5D.3A5.314.301 1F5F.3A5.314.342 .3C9.313 + .3C9.313.300 .3C9.314.300 .3C9.313.301 .3C9.314.301 .3C9.313.342 .3C9.314.342 .3A9.313 + .3A9.313.300",
  ".3A9.314.300 .3A9.313.301 .3A9.314.301 .3A9.313.342 .3A9.314.342 .3B1.300 + .3B5.300 + .3B7.300 + .3B9.300 + .3BF.300 + .3C5.300 + .3C9.300 + 1F80.3B1.313.345 .3B1.314.345 .3B1.313.300.345 .3B1.314.300.345 .3B1.313.301.345 .3B1.314.301.345 .3B1.313.342.345 .3B1.314.342.345 .391.313.345 .391.314.345 .391.313.300.345 .391.314.300.345 .391.313.301.345 .391.314.301.345 .391.313.342.345",
  ".391.314.342.345 .3B7.313.345 .3B7.314.345 .3B7.313.300.345 .3B7.314.300.345 .3B7.313.301.345 .3B7.314.301.345 .3B7.313.342.345 .3B7.314.342.345 .397.313.345 .397.314.345 .397.313.300.345 .397.314.300.345 .397.313.301.345 .397.314.301.345 .397.313.342.345 .397.314.342.345 .3C9.313.345 .3C9.314.345 .3C9.313.300.345 .3C9.314.300.345 .3C9.313.301.345 .3C9.314.301.345 .3C9.313.342.345 .3C9.314.342.345",
  ".3A9.313.345 .3A9.314.345 .3A9.313.300.345 .3A9.314.300.345 .3A9.313.301.345 .3A9.314.301.345 .3A9.313.342.345 .3A9.314.342.345 .3B1.306 .3B1.304 .3B1.300.345 .3B1.345 .3B1.301.345 1FB6.3B1.342 .3B1.342.345 .391.306 .391.304 .391.300 + .391.345 .20.313 .3B9 .20.313 .20.342 .20.308.342 .3B7.300.345 .3B7.345 .3B7.301.345 1FC6.3B7.342 .3B7.342.345 .395.300 + .397.300 + .397.345 .20.313.300 +",
  ".20.313.342 .3B9.306 .3B9.304 .3B9.308.300 + 1FD6.3B9.342 .3B9.308.342 .399.306 .399.304 .399.300 + 1FDD.20.314.300 + .20.314.342 .3C5.306 .3C5.304 .3C5.308.300 + .3C1.313 + .3C5.342 .3C5.308.342 .3A5.306 .3A5.304 .3A5.300 + .3A1.314 .20.308.300 + .60 1FF2.3C9.300.345 .3C9.345 .3C9.301.345 1FF6.3C9.342 .3C9.342.345 .39F.300 + .3A9.300 + .3A9.345 .20.301 .20.314 2000.20 .20 .20 .20 .20 .20 .20 .20",
  ".20 .20 .20 2011.2010 2017.20.333 2024.2E .2E.2E .2E.2E.2E 202F.20 2033.2032.2032 .2032.2032.2032 2036.2035.2035 .2035.2035.2035 203C.21.21 203E.20.305 2047.3F.3F .3F.21 .21.3F 2057.2032.2032.2032.2032 205F.20 2070.30 .69 2074.34 *5 .2B .2212 .3D .28 + .6E .30 *9 .2B .2212 .3D .28 + 20A8.52.73 2100.61.2F.63 .61.2F.73 .43 .B0.43 2105.63.2F.6F .63.2F.75 .190 2109.B0.46 .67 .48 .48 .48 .68 .127 .49",
  ".49 .4C .6C 2115.4E .4E.6F 2119.50 *2 .52 .52 2120.53.4D .54.45.4C .54.4D 2124.5A 2126.3A9 2128.5A 212A.4B .41.30A .42 + 212F.65 .45 + 2133.4D .6F .5D0 *3 .69 213D.3B3 .393 .3A0 .2211 2145.44 .64 + .69 + 2153.31.2044.33 .32.2044.33 .31.2044.35 .32.2044.35 .33.2044.35 .34.2044.35 .31.2044.36 .35.2044.36 .31.2044.38 .33.2044.38 .35.2044.38 .37.2044.38 .31.2044 .49 .49.49 .49.49.49 .49.56 .56 .56.49",
  ".56.49.49 .56.49.49.49 .49.58 .58 .58.49 .58.49.49 .4C .43 + .4D .69 .69.69 .69.69.69 .69.76 .76 .76.69 .76.69.69 .76.69.69.69 .69.78 .78 .78.69 .78.69.69 .6C .63 + .6D 219A.2190.338 .2192.338 21AE.2194.338 21CD.21D0.338 .21D4.338 .21D2.338 2204.2203.338 2209.2208.338 220C.220B.338 2224.2223.338 2226.2225.338 222C.222B.222B .222B.222B.222B 222F.222E.222E .222E.222E.222E 2241.223C.338 2244.2243.338",
  "2247.2245.338 2249.2248.338 2260.3D.338 2262.2261.338 226D.224D.338 .3C.338 .3E.338 .2264.338 .2265.338 2274.2272.338 .2273.338 2278.2276.338 .2277.338 2280.227A.338 .227B.338 2284.2282.338 .2283.338 2288.2286.338 .2287.338 22AC.22A2.338 .22A8.338 .22A9.338 .22AB.338 22E0.227C.338 .227D.338 .2291.338 .2292.338 22EA.22B2.338 .22B3.338 .22B4.338 .22B5.338 2329.3008 + 2460.31 *8 .31.30 *9 .32.30",
  ".28.31.29 .28.32.29 .28.33.29 .28.34.29 .28.35.29 .28.36.29 .28.37.29 .28.38.29 .28.39.29 .28.31.30.29 .28.31.31.29 .28.31.32.29 .28.31.33.29 .28.31.34.29 .28.31.35.29 .28.31.36.29 .28.31.37.29 .28.31.38.29 .28.31.39.29 .28.32.30.29 .31.2E .32.2E .33.2E .34.2E .35.2E .36.2E .37.2E .38.2E .39.2E .31.30.2E .31.31.2E .31.32.2E .31.33.2E .31.34.2E .31.35.2E .31.36.2E .31.37.2E .31.38.2E .31.39.2E",
  ".32.30.2E .28.61.29 .28.62.29 .28.63.29 .28.64.29 .28.65.29 .28.66.29 .28.67.29 .28.68.29 .28.69.29 .28.6A.29 .28.6B.29 .28.6C.29 .28.6D.29 .28.6E.29 .28.6F.29 .28.70.29 .28.71.29 .28.72.29 .28.73.29 .28.74.29 .28.75.29 .28.76.29 .28.77.29 .28.78.29 .28.79.29 .28.7A.29 .41 *25 .61 *25 .30 2A0C.222B.222B.222B.222B 2A74.3A.3A.3D .3D.3D .3D.3D.3D 2ADC.2ADD.338 2E9F.6BCD 2EF3.9F9F 2F00.4E00 .4E28",
  ".4E36 .4E3F .4E59 .4E85 .4E8C .4EA0 .4EBA .513F .5165 .516B .5182 .5196 .51AB .51E0 .51F5 .5200 .529B .52F9 .5315 .531A .5338 .5341 .535C .5369 .5382 .53B6 .53C8 .53E3 .56D7 .571F .58EB .5902 .590A .5915 .5927 .5973 .5B50 .5B80 .5BF8 .5C0F .5C22 .5C38 .5C6E .5C71 .5DDB .5DE5 .5DF1 .5DFE .5E72 .5E7A .5E7F .5EF4 .5EFE .5F0B .5F13 .5F50 .5F61 .5F73 .5FC3 .6208 .6236 .624B .652F .6534 .6587 .6597",
  ".65A4 .65B9 .65E0 .65E5 .66F0 .6708 .6728 .6B20 .6B62 .6B79 .6BB3 .6BCB .6BD4 .6BDB .6C0F .6C14 .6C34 .706B .722A .7236 .723B .723F .7247 .7259 .725B .72AC .7384 .7389 .74DC .74E6 .7518 .751F .7528 .7530 .758B .7592 .7676 .767D .76AE .76BF .76EE .77DB .77E2 .77F3 .793A .79B8 .79BE .7A74 .7ACB .7AF9 .7C73 .7CF8 .7F36 .7F51 .7F8A .7FBD .8001 .800C .8012 .8033 .807F .8089 .81E3 .81EA .81F3 .81FC",
  ".820C .821B .821F .826E .8272 .8278 .864D .866B .8840 .884C .8863 .897E .898B .89D2 .8A00 .8C37 .8C46 .8C55 .8C78 .8C9D .8D64 .8D70 .8DB3 .8EAB .8ECA .8F9B .8FB0 .8FB5 .9091 .9149 .91C6 .91CC .91D1 .9577 .9580 .961C .96B6 .96B9 .96E8 .9751 .975E .9762 .9769 .97CB .97ED .97F3 .9801 .98A8 .98DB .98DF .9996 .9999 .99AC .9AA8 .9AD8 .9ADF .9B25 .9B2F .9B32 .9B3C .9B5A .9CE5 .9E75 .9E7F .9EA5 .9EBB",
  ".9EC3 .9ECD .9ED1 .9EF9 .9EFD .9F0E .9F13 .9F20 .9F3B .9F4A .9F52 .9F8D .9F9C .9FA0 3000.20 3036.3012 3038.5341 .5344 + 304C.304B.3099 304E.304D.3099 3050.304F.3099 3052.3051.3099 3054.3053.3099 3056.3055.3099 3058.3057.3099 305A.3059.3099 305C.305B.3099 305E.305D.3099 3060.305F.3099 3062.3061.3099 3065.3064.3099 3067.3066.3099 3069.3068.3099 3070.306F.3099 + 3073.3072.3099 + 3076.3075.3099 +",
  "3079.3078.3099 + 307C.307B.3099 + 3094.3046.3099 309B.20.3099 + 309E.309D.3099 .3088.308A 30AC.30AB.3099 30AE.30AD.3099 30B0.30AF.3099 30B2.30B1.3099 30B4.30B3.3099 30B6.30B5.3099 30B8.30B7.3099 30BA.30B9.3099 30BC.30BB.3099 30BE.30BD.3099 30C0.30BF.3099 30C2.30C1.3099 30C5.30C4.3099 30C7.30C6.3099 30C9.30C8.3099 30D0.30CF.3099 + 30D3.30D2.3099 + 30D6.30D5.3099 + 30D9.30D8.3099 + 30DC.30DB.3099 +",
  "30F4.30A6.3099 30F7.30EF.3099 .30F0.3099 .30F1.3099 .30F2.3099 30FE.30FD.3099 .30B3.30C8 3131.1100 + .11AA .1102 .11AC + .1103 *2 .11B0 *5 .111A .1106 *2 .1121 .1109 *9 .1161 *20 .1160 .1114 + .11C7 + .11CC .11CE .11D3 .11D7 .11D9 .111C .11DD .11DF .111D + .1120 .1122 + .1127 .1129 .112B *4 .1132 .1136 .1140 .1147 .114C .11F1 + .1157 *2 .1184 + .1188 .1191 + .1194 .119E .11A1 3192.4E00 .4E8C .4E09",
  ".56DB .4E0A .4E2D .4E0B .7532 .4E59 .4E19 .4E01 .5929 .5730 .4EBA 3200.28.1100.29 .28.1102.29 .28.1103.29 .28.1105.29 .28.1106.29 .28.1107.29 .28.1109.29 .28.110B.29 .28.110C.29 .28.110E.29 .28.110F.29 .28.1110.29 .28.1111.29 .28.1112.29 .28.1100.1161.29 .28.1102.1161.29 .28.1103.1161.29 .28.1105.1161.29 .28.1106.1161.29 .28.1107.1161.29 .28.1109.1161.29 .28.110B.1161.29 .28.110C.1161.29",
  ".28.110E.1161.29 .28.110F.1161.29 .28.1110.1161.29 .28.1111.1161.29 .28.1112.1161.29 .28.110C.116E.29 3220.28.4E00.29 .28.4E8C.29 .28.4E09.29 .28.56DB.29 .28.4E94.29 .28.516D.29 .28.4E03.29 .28.516B.29 .28.4E5D.29 .28.5341.29 .28.6708.29 .28.706B.29 .28.6C34.29 .28.6728.29 .28.91D1.29 .28.571F.29 .28.65E5.29 .28.682A.29 .28.6709.29 .28.793E.29 .28.540D.29 .28.7279.29 .28.8CA1.29 .28.795D.29",
  ".28.52B4.29 .28.4EE3.29 .28.547C.29 .28.5B66.29 .28.76E3.29 .28.4F01.29 .28.8CC7.29 .28.5354.29 .28.796D.29 .28.4F11.29 .28.81EA.29 .28.81F3.29 3251.32.31 *8 .33.30 *5 .1100 .1102 + .1105 *2 .1109 .110B + .110E *4 .1100.1161 .1102.1161 .1103.1161 .1105.1161 .1106.1161 .1107.1161 .1109.1161 .110B.1161 .110C.1161 .110E.1161 .110F.1161 .1110.1161 .1111.1161 .1112.1161 3280.4E00 .4E8C .4E09 .56DB",
  ".4E94 .516D .4E03 .516B .4E5D .5341 .6708 .706B .6C34 .6728 .91D1 .571F .65E5 .682A .6709 .793E .540D .7279 .8CA1 .795D .52B4 .79D8 .7537 .5973 .9069 .512A .5370 .6CE8 .9805 .4F11 .5199 .6B63 .4E0A .4E2D .4E0B .5DE6 .53F3 .533B .5B97 .5B66 .76E3 .4F01 .8CC7 .5354 .591C .33.36 *3 .34.30 *9 .35.30 .31.6708 .32.6708 .33.6708 .34.6708 .35.6708 .36.6708 .37.6708 .38.6708 .39.6708 .31.30.6708",
  ".31.31.6708 .31.32.6708 32D0.30A2 .30A4 .30A6 .30A8 .30AA + .30AD .30AF .30B1 .30B3 .30B5 .30B7 .30B9 .30BB .30BD .30BF .30C1 .30C4 .30C6 .30C8 .30CA *5 .30D2 .30D5 .30D8 .30DB .30DE *4 .30E4 .30E6 .30E8 *5 .30EF *3 3300.30A2.30CF.309A.30FC.30C8 .30A2.30EB.30D5.30A1 .30A2.30F3.30D8.309A.30A2 .30A2.30FC.30EB .30A4.30CB.30F3.30AF.3099 .30A4.30F3.30C1 .30A6.30A9.30F3 .30A8.30B9.30AF.30FC.30C8.3099",
  ".30A8.30FC.30AB.30FC .30AA.30F3.30B9 .30AA.30FC.30E0 .30AB.30A4.30EA .30AB.30E9.30C3.30C8 .30AB.30ED.30EA.30FC .30AB.3099.30ED.30F3 .30AB.3099.30F3.30DE .30AD.3099.30AB.3099 .30AD.3099.30CB.30FC .30AD.30E5.30EA.30FC .30AD.3099.30EB.30BF.3099.30FC .30AD.30ED .30AD.30ED.30AF.3099.30E9.30E0 .30AD.30ED.30E1.30FC.30C8.30EB .30AD.30ED.30EF.30C3.30C8 .30AF.3099.30E9.30E0 .30AF.3099.30E9.30E0.30C8.30F3",
  ".30AF.30EB.30BB.3099.30A4.30ED .30AF.30ED.30FC.30CD .30B1.30FC.30B9 .30B3.30EB.30CA .30B3.30FC.30DB.309A .30B5.30A4.30AF.30EB .30B5.30F3.30C1.30FC.30E0 .30B7.30EA.30F3.30AF.3099 .30BB.30F3.30C1 .30BB.30F3.30C8 .30BF.3099.30FC.30B9 .30C6.3099.30B7 .30C8.3099.30EB .30C8.30F3 .30CA.30CE .30CE.30C3.30C8 .30CF.30A4.30C4 .30CF.309A.30FC.30BB.30F3.30C8 .30CF.309A.30FC.30C4 .30CF.3099.30FC.30EC.30EB",
  ".30D2.309A.30A2.30B9.30C8.30EB .30D2.309A.30AF.30EB .30D2.309A.30B3 .30D2.3099.30EB .30D5.30A1.30E9.30C3.30C8.3099 .30D5.30A3.30FC.30C8 .30D5.3099.30C3.30B7.30A7.30EB .30D5.30E9.30F3 .30D8.30AF.30BF.30FC.30EB .30D8.309A.30BD .30D8.309A.30CB.30D2 .30D8.30EB.30C4 .30D8.309A.30F3.30B9 .30D8.309A.30FC.30B7.3099 .30D8.3099.30FC.30BF .30DB.309A.30A4.30F3.30C8 .30DB.3099.30EB.30C8 .30DB.30F3",
  ".30DB.309A.30F3.30C8.3099 .30DB.30FC.30EB .30DB.30FC.30F3 .30DE.30A4.30AF.30ED .30DE.30A4.30EB .30DE.30C3.30CF .30DE.30EB.30AF .30DE.30F3.30B7.30E7.30F3 .30DF.30AF.30ED.30F3 .30DF.30EA .30DF.30EA.30CF.3099.30FC.30EB .30E1.30AB.3099 .30E1.30AB.3099.30C8.30F3 .30E1.30FC.30C8.30EB .30E4.30FC.30C8.3099 .30E4.30FC.30EB .30E6.30A2.30F3 .30EA.30C3.30C8.30EB .30EA.30E9 .30EB.30D2.309A.30FC",
  ".30EB.30FC.30D5.3099.30EB .30EC.30E0 .30EC.30F3.30C8.30B1.3099.30F3 .30EF.30C3.30C8 .30.70B9 .31.70B9 .32.70B9 .33.70B9 .34.70B9 .35.70B9 .36.70B9 .37.70B9 .38.70B9 .39.70B9 .31.30.70B9 .31.31.70B9 .31.32.70B9 .31.33.70B9 .31.34.70B9 .31.35.70B9 .31.36.70B9 .31.37.70B9 .31.38.70B9 .31.39.70B9 .32.30.70B9 .32.31.70B9 .32.32.70B9 .32.33.70B9 .32.34.70B9 .68.50.61 .64.61 .41.55 .62.61.72 .6F.56",
  ".70.63 337B.5E73.6210 .662D.548C .5927.6B63 .660E.6CBB .682A.5F0F.4F1A.793E .70.41 .6E.41 .3BC.41 .6D.41 .6B.41 .4B.42 .4D.42 .47.42 .63.61.6C .6B.63.61.6C .70.46 .6E.46 .3BC.46 .3BC.67 .6D.67 .6B.67 .48.7A .6B.48.7A .4D.48.7A .47.48.7A .54.48.7A .3BC.6C .6D.6C .64.6C .6B.6C .66.6D .6E.6D .3BC.6D .6D.6D .63.6D .6B.6D .6D.6D.32 .63.6D.32 .6D.32 .6B.6D.32 .6D.6D.33 .63.6D.33 .6D.33 .6B.6D.33",
  ".6D.2215.73 .6D.2215.73.32 .50.61 .6B.50.61 .4D.50.61 .47.50.61 .72.61.64 .72.61.64.2215.73 .72.61.64.2215.73.32 .70.73 .6E.73 .3BC.73 .6D.73 .70.56 .6E.56 .3BC.56 .6D.56 .6B.56 .4D.56 .70.57 .6E.57 .3BC.57 .6D.57 .6B.57 .4D.57 .6B.3A9 .4D.3A9 .61.2E.6D.2E .42.71 .63.63 + .43.2215.6B.67 .43.6F.2E .64.42 .47.79 .68.61 .48.50 .69.6E .4B.4B .4B.4D .6B.74 .6C.6D + .6C.6F.67 .6C.78 .6D.62 .6D.69.6C",
  ".6D.6F.6C .50.48 .70.2E.6D.2E .50.50.4D .50.52 .73.72 .53.76 .57.62 33E0.31.65E5 .32.65E5 .33.65E5 .34.65E5 .35.65E5 .36.65E5 .37.65E5 .38.65E5 .39.65E5 .31.30.65E5 .31.31.65E5 .31.32.65E5 .31.33.65E5 .31.34.65E5 .31.35.65E5 .31.36.65E5 .31.37.65E5 .31.38.65E5 .31.39.65E5 .32.30.65E5 .32.31.65E5 .32.32.65E5 .32.33.65E5 .32.34.65E5 .32.35.65E5 .32.36.65E5 .32.37.65E5 .32.38.65E5 .32.39.65E5",
  ".33.30.65E5 .33.31.65E5 F900.8C48 .66F4 .8ECA .8CC8 .6ED1 .4E32 .53E5 .9F9C .9F9C .5951 .91D1 .5587 .5948 .61F6 .7669 .7F85 .863F .87BA .88F8 .908F .6A02 .6D1B .70D9 .73DE .843D .916A .99F1 .4E82 .5375 .6B04 .721B .862D .9E1E .5D50 .6FEB .85CD .8964 .62C9 .81D8 .881F .5ECA .6717 .6D6A .72FC .90CE .4F86 .51B7 .52DE .64C4 .6AD3 .7210 .76E7 .8001 .8606 .865C .8DEF .9732 .9B6F .9DFA .788C .797F .7DA0",
  ".83C9 .9304 .9E7F .8AD6 .58DF .5F04 .7C60 .807E .7262 .78CA .8CC2 .96F7 .58D8 .5C62 .6A13 .6DDA .6F0F .7D2F .7E37 .964B .52D2 .808B .51DC .51CC .7A1C .7DBE .83F1 .9675 .8B80 .62CF .6A02 .8AFE .4E39 .5BE7 .6012 .7387 .7570 .5317 .78FB .4FBF .5FA9 .4E0D .6CCC .6578 .7D22 .53C3 .585E .7701 .8449 .8AAA .6BBA .8FB0 .6C88 .62FE .82E5 .63A0 .7565 .4EAE .5169 .51C9 .6881 .7CE7 .826F .8AD2 .91CF .52F5",
  ".5442 .5973 .5EEC .65C5 .6FFE .792A .95AD .9A6A .9E97 .9ECE .529B .66C6 .6B77 .8F62 .5E74 .6190 .6200 .649A .6F23 .7149 .7489 .79CA .7DF4 .806F .8F26 .84EE .9023 .934A .5217 .52A3 .54BD .70C8 .88C2 .8AAA .5EC9 .5FF5 .637B .6BAE .7C3E .7375 .4EE4 .56F9 .5BE7 .5DBA .601C .73B2 .7469 .7F9A .8046 .9234 .96F6 .9748 .9818 .4F8B .79AE .91B4 .96B8 .60E1 .4E86 .50DA .5BEE .5C3F .6599 .6A02 .71CE .7642",
  ".84FC .907C .9F8D .6688 .962E .5289 .677B .67F3 .6D41 .6E9C .7409 .7559 .786B .7D10 .985E .516D .622E .9678 .502B .5D19 .6DEA .8F2A .5F8B .6144 .6817 .7387 .9686 .5229 .540F .5C65 .6613 .674E .68A8 .6CE5 .7406 .75E2 .7F79 .88CF .88E1 .91CC .96E2 .533F .6EBA .541D .71D0 .7498 .85FA .96A3 .9C57 .9E9F .6797 .6DCB .81E8 .7ACB .7B20 .7C92 .72C0 .7099 .8B58 .4EC0 .8336 .523A .5207 .5EA6 .62D3 .7CD6",
  ".5B85 .6D1E .66B4 .8F3B .884C .964D .898B .5ED3 .5140 .55C0 FA10.585A FA12.6674 FA15.51DE .732A .76CA .793C .795E .7965 .798F .9756 .7CBE .7FBD FA20.8612 FA22.8AF8 FA25.9038 .90FD FA2A.98EF .98FC .9928 .9DB4 FA30.4FAE .50E7 .514D .52C9 .52E4 .5351 .559D .5606 .5668 .5840 .58A8 .5C64 .5C6E .6094 .6168 .618E .61F2 .654F .65E2 .6691 .6885 .6D77 .6E1A .6F22 .716E .722B .7422 .7891 .793E .7949 .7948",
  ".7950 .7956 .795D .798D + .7A40 .7A81 .7BC0 .7DF4 .7E09 .7E41 .7F72 .8005 .81ED .8279 .8279 .8457 .8910 .8996 .8B01 .8B39 .8CD3 .8D08 .8FB6 .9038 .96E3 .97FF .983B FB00.66.66 .66.69 .66.6C .66.66.69 .66.66.6C .73.74 .73.74 FB13.574.576 .574.565 .574.56B .57E.576 .574.56D FB1D.5D9.5B4 FB1F.5F2.5B7 .5E2 .5D0 .5D3 + .5DB *2 .5E8 .5EA .2B .5E9.5C1 + .5E9.5BC.5C1 + .5D0.5B7 + .5D0.5BC .5D1.5BC .5D2.5BC",
  ".5D3.5BC .5D4.5BC .5D5.5BC .5D6.5BC FB38.5D8.5BC .5D9.5BC .5DA.5BC .5DB.5BC .5DC.5BC FB3E.5DE.5BC FB40.5E0.5BC .5E1.5BC FB43.5E3.5BC .5E4.5BC FB46.5E6.5BC .5E7.5BC .5E8.5BC .5E9.5BC .5EA.5BC .5D5.5B9 .5D1.5BF .5DB.5BF .5E4.5BF .5D0.5DC .671 .671 .67B .67B .67B .67B .67E .67E .67E .67E .680 .680 .680 .680 .67A .67A .67A .67A .67F .67F .67F .67F .679 .679 .679 .679 .6A4 .6A4 .6A4 .6A4 .6A6 .6A6 .6A6",
  ".6A6 .684 .684 .684 .684 .683 .683 .683 .683 .686 .686 .686 .686 + .687 .687 .687 .68D .68D .68C .68C .68E .68E .688 .688 .698 .698 .691 .691 .6A9 .6A9 .6A9 .6A9 .6AF .6AF .6AF .6AF .6B3 .6B3 .6B3 .6B3 .6B1 .6B1 .6B1 .6B1 .6BA .6BA + .6BB .6BB .6BB .6D5.654 .6D5.654 .6C1 .6C1 .6C1 .6C1 .6BE .6BE .6BE .6BE .6D2 .6D2 .6D2.654 .6D2.654 FBD3.6AD .6AD .6AD .6AD .6C7 .6C7 .6C6 .6C6 .6C8 .6C8 .6C7.674",
  ".6CB .6CB .6C5 .6C5 .6C9 .6C9 .6D0 .6D0 .6D0 .6D0 .649 .649 .64A.654.627 .64A.654.627 .64A.654.6D5 .64A.654.6D5 .64A.654.648 .64A.654.648 .64A.654.6C7 .64A.654.6C7 .64A.654.6C6 .64A.654.6C6 .64A.654.6C8 .64A.654.6C8 .64A.654.6D0 .64A.654.6D0 .64A.654.6D0 .64A.654.649 .64A.654.649 .64A.654.649 .6CC .6CC .6CC .6CC .64A.654.62C + .64A.654.645 .64A.654.649 + .628.62C *2 .628.645 .628.649 + .62A.62C *2",
  ".62A.645 .62A.649 + .62B.62C .62B.645 .62B.649 + .62C.62D .62C.645 .62D.62C .62D.645 .62E.62C + .62E.645 .633.62C *2 .633.645 .635.62D .635.645 .636.62C *2 .636.645 .637.62D .637.645 .638.645 .639.62C .639.645 .63A.62C .63A.645 .641.62C *2 .641.645 .641.649 + .642.62D .642.645 .642.649 + .643.627 .643.62C *2 .643.644 + .643.649 + .644.62C *2 .644.645 .644.649 + .645.62C *2 .645.645 .645.649 +",
  ".646.62C *2 .646.645 .646.649 + .647.62C .647.645 .647.649 + .64A.62C *2 .64A.645 .64A.649 + .630.670 .631.670 .649.670 .20.64C.651 .20.64D.651 .20.64E.651 .20.64F.651 .20.650.651 .20.651.670 .64A.654.631 + .64A.654.645 + .64A.654.649 + .628.631 + .628.645 + .628.649 + .62A.631 + .62A.645 + .62A.649 + .62B.631 + .62B.645 + .62B.649 + .641.649 + .642.649 + .643.627 .643.644 + .643.649 + .644.645",
  ".644.649 + .645.627 .645.645 .646.631 + .646.645 + .646.649 + .649.670 .64A.631 + .64A.645 + .64A.649 + .64A.654.62C *2 .64A.654.645 .64A.654.647 .628.62C *2 .628.645 .628.647 .62A.62C *2 .62A.645 .62A.647 .62B.645 .62C.62D .62C.645 .62D.62C .62D.645 .62E.62C .62E.645 .633.62C *2 .633.645 .635.62D + .635.645 .636.62C *2 .636.645 .637.62D .638.645 .639.62C .639.645 .63A.62C .63A.645 .641.62C *2",
  ".641.645 .642.62D .642.645 .643.62C *2 .643.644 + .644.62C *2 .644.645 .644.647 .645.62C *2 .645.645 .646.62C *2 .646.645 .646.647 .647.62C .647.645 .647.670 .64A.62C *2 .64A.645 .64A.647 .64A.654.645 .64A.654.647 .628.645 .628.647 .62A.645 .62A.647 .62B.645 .62B.647 .633.645 .633.647 .634.645 .634.647 .643.644 + .644.645 .646.645 .646.647 .64A.645 .64A.647 .640.64E.651 .640.64F.651 .640.650.651",
  ".637.649 + .639.649 + .63A.649 + .633.649 + .634.649 + .62D.649 + .62C.649 + .62E.649 + .635.649 + .636.649 + .634.62C *2 .634.645 .634.631 .633.631 .635.631 .636.631 .637.649 + .639.649 + .63A.649 + .633.649 + .634.649 + .62D.649 + .62C.649 + .62E.649 + .635.649 + .636.649 + .634.62C *2 .634.645 .634.631 .633.631 .635.631 .636.631 .634.62C *2 .634.645 .633.647 .634.647 .637.645 .633.62C *2",
  ".634.62C *2 .637.645 .638.645 .627.64B .627.64B FD50.62A.62C.645 .62A.62D.62C .62A.62D.62C .62A.62D.645 .62A.62E.645 .62A.645.62C *2 .62C.645.62D .62C.645.62D .62D.645.64A .62D.645.649 .633.62D.62C .633.62C.62D .633.62C.649 .633.645.62D .633.645.62D .633.645.62C .633.645.645 .633.645.645 .635.62D.62D .635.62D.62D .635.645.645 .634.62D.645 .634.62D.645 .634.62C.64A .634.645.62E .634.645.62E",
  ".634.645.645 .634.645.645 .636.62D.649 .636.62E.645 .636.62E.645 .637.645.62D .637.645.62D .637.645.645 .637.645.64A .639.62C.645 .639.645.645 .639.645.645 .639.645.649 .63A.645.645 .63A.645.64A .63A.645.649 .641.62E.645 .641.62E.645 .642.645.62D .642.645.645 .644.62D.645 .644.62D.64A .644.62D.649 .644.62C.62C .644.62C.62C .644.62E.645 .644.62E.645 .644.645.62D .644.645.62D .645.62D.62C",
  ".645.62D.645 .645.62D.64A .645.62C.62D .645.62C.645 .645.62E.62C .645.62E.645 FD92.645.62C.62E .647.645.62C .647.645.645 .646.62D.645 .646.62D.649 .646.62C.645 .646.62C.645 .646.62C.649 .646.645.64A .646.645.649 .64A.645.645 .64A.645.645 .628.62E.64A .62A.62C.64A .62A.62C.649 .62A.62E.64A .62A.62E.649 .62A.645.64A .62A.645.649 .62C.645.64A .62C.62D.649 .62C.645.649 .633.62E.649 .635.62D.64A",
  ".634.62D.64A .636.62D.64A .644.62C.64A .644.645.64A .64A.62D.64A .64A.62C.64A .64A.645.64A .645.645.64A .642.645.64A .646.62D.64A .642.645.62D .644.62D.645 .639.645.64A .643.645.64A .646.62C.62D .645.62E.64A .644.62C.645 .643.645.645 .644.62C.645 .646.62C.62D .62C.62D.64A .62D.62C.64A .645.62C.64A .641.645.64A .628.62D.64A .643.645.645 .639.62C.645 .635.645.645 .633.62E.64A .646.62C.64A",
  "FDF0.635.644.6D2 .642.644.6D2 .627.644.644.647 .627.643.628.631 .645.62D.645.62F .635.644.639.645 .631.633.648.644 .639.644.64A.647 .648.633.644.645 .635.644.649 .635.644.649.20.627.644.644.647.20.639.644.64A.647.20.648.633.644.645 .62C.644.20.62C.644.627.644.647 .631.6CC.627.644 FE30.2E.2E .2014 .2013 .5F .5F .28 + .7B .7D .3014 + .3010 + .300A + .3008 + .300C *3 FE49.20.305 .20.305 .20.305",
  ".20.305 .5F .5F .5F .2C .3001 .2E FE54.3B .3A .3F .21 .2014 .28 + .7B .7D .3014 + .23 .26 .2A + .2D .3C .3E .3D FE68.5C .24 + .40 FE70.20.64B .640.64B .20.64C FE74.20.64D FE76.20.64E .640.64E .20.64F .640.64F .20.650 .640.650 .20.651 .640.651 .20.652 .640.652 .621 .627.653 .627.653 + .627.654 .648.654 .648.654 .627.655 .627.655 .64A.654 .64A.654 .64A.654 .64A.654 .627 .627 + .628 .628 .628 + .629",
  "+ .62A .62A .62A + .62B .62B .62B + .62C .62C .62C + .62D .62D .62D + .62E .62E .62E + .62F + .630 + .631 + .632 + .633 .633 .633 + .634 .634 .634 + .635 .635 .635 + .636 .636 .636 + .637 .637 .637 + .638 .638 .638 + .639 .639 .639 + .63A .63A .63A .641 .641 .641 .641 + .642 .642 .642 + .643 .643 .643 + .644 .644 .644 + .645 .645 .645 + .646 .646 .646 + .647 .647 .647 + .648 + .649 + .64A .64A",
  ".64A .644.627.653 .644.627.653 + .644.627.654 + .644.627.655 .644.627 .644.627 FF01.21 *93 .2985 + .3002 .300C + .3001 .30FB .30F2 .30A1 .30A3 .30A5 .30A7 .30A9 .30E3 .30E5 .30E7 .30C3 .30FC .30A2 .30A4 .30A6 .30A8 .30AA + .30AD .30AF .30B1 .30B3 .30B5 .30B7 .30B9 .30BB .30BD .30BF .30C1 .30C4 .30C6 .30C8 .30CA *5 .30D2 .30D5 .30D8 .30DB .30DE *4 .30E4 .30E6 .30E8 *5 .30EF .30F3 .3099 + .1160",
  ".1100 + .11AA .1102 .11AC + .1103 *2 .11B0 *5 .111A .1106 *2 .1121 .1109 *9 FFC2.1161 *5 FFCA.1167 *5 FFD2.116D *5 FFDA.1173 *2 FFE0.A2 + .AC .20.304 .A6 .A5 .20A9 FFE8.2502 .2190 *3 .25A0 .25CB 1D15E.1D157.1D165 .1D158.1D165 .1D158.1D165.1D16E *4 1D1BB.1D1B9.1D165 .1D1BA.1D165 .1D1B9.1D165.1D16E .1D1BA.1D165.1D16E .1D1B9.1D165.1D16F .1D1BA.1D165.1D16F 1D400.41 *25 .61 *25 .41 *25 .61 *6 =",
  "*17 .41 *25 .61 *25 .41 = + 1D4A2.47 1D4A5.4A + 1D4A9.4E *3 = *7 .61 *3 /2 *3 = + = *10 .41 *25 .61 *25 .41 + = *3 1D50D.4A *7 = *6 1D51E.61 *25 .41 + = *3 = *4 = 1D54A.53 *6 1D552.61 *25 .41 *25 .61 *25 .41 *25 .61 *25 .41 *25 .61 *25 .41 *25 .61 *25 .41 *25 .61 *25 .41 *25 .61 *25 1D6A8.391 *16 .398 .3A3 *6 .2207 .3B1",
  "*24 .2202 .3B5 .3B8 .3BA .3C6 .3C1 .3C0 .391 *16 .398 .3A3 *6 .2207 .3B1 *24 .2202 .3B5 .3B8 .3BA .3C6 .3C1 .3C0 .391 *16 .398 .3A3 *6 .2207 .3B1 *24 .2202 .3B5 .3B8 .3BA .3C6 .3C1 .3C0 .391 *16 .398 .3A3 *6 .2207 .3B1 *24 .2202 .3B5 .3B8 .3BA .3C6 .3C1 .3C0 .391 *16 .398 .3A3 *6 .2207 .3B1 *24 .2202 .3B5 .3B8 .3BA .3C6 .3C1 .3C0 1D7CE.30 *9 .30 *9 .30 *9 .30 *9 .30 *9 2F800.4E3D .4E38 .4E41",
  ".20122 .4F60 .4FAE .4FBB .5002 .507A .5099 .50E7 .50CF .349E .2063A .514D .5154 .5164 .5177 .2051C .34B9 .5167 .518D .2054B .5197 .51A4 .4ECC .51AC .51B5 .291DF .51F5 .5203 .34DF .523B .5246 .5272 .5277 .3515 .52C7 .52C9 .52E4 .52FA .5305 + .5317 .5349 .5351 .535A .5373 .537D .537F .537F .537F .20A2C .7070 .53CA .53DF .20B63 .53EB .53F1 .5406 .549E .5438 .5448 .5468 .54A2 .54F6 .5510 .5553 .5563",
  ".5584 .5584 .5599 .55AB .55B3 .55C2 .5716 .5606 .5717 .5651 .5674 .5207 .58EE .57CE .57F4 .580D .578B .5832 .5831 .58AC .214E4 .58F2 .58F7 .5906 .591A .5922 .5962 .216A8 .216EA .59EC .5A1B .5A27 .59D8 .5A66 .36EE .2136A .5B08 .5B3E .5B3E .219C8 .5BC3 .5BD8 .5BE7 .5BF3 .21B18 .5BFF .5C06 .5F33 .5C22 .3781 .5C60 .5C6E .5CC0 .5C8D .21DE4 .5D43 .21DE6 .5D6E .5D6B .5D7C .5DE1 + .382F .5DFD .5E28 .5E3D",
  ".5E69 .3862 .22183 .387C .5EB0 .5EB3 .5EB6 .5ECA .2A392 .5EFE .22331 .22331 .8201 .5F22 .5F22 .38C7 .232B8 .261DA .5F62 .5F6B .38E3 .5F9A .5FCD .5FD7 .5FF9 .6081 .393A .391C .6094 .226D4 .60C7 .6148 .614C .614E .614C .617A .618E .61B2 .61A4 .61AF .61DE .61F2 .61F6 .6210 .621B .625D .62B1 .62D4 .6350 .22B0C .633D .62FC .6368 .6383 .63E4 .22BF1 .6422 .63C5 .63A9 .3A2E .6469 .647E .649D .6477 .3A6C",
  ".654F .656C .2300A .65E3 .66F8 .6649 .3B19 .6691 .3B08 .3AE4 .5192 .5195 .6700 .669C .80AD .43D9 .6717 .671B .6721 .675E .6753 .233C3 .3B49 .67FA .6785 .6852 .6885 .2346D .688E .681F .6914 .3B9D .6942 .69A3 .69EA .6AA8 .236A3 .6ADB .3C18 .6B21 .238A7 .6B54 .3C4E .6B72 .6B9F .6BBA + .23A8D .21D0B .23AFA .6C4E .23CBC .6CBF .6CCD .6C67 .6D16 .6D3E .6D77 .6D41 .6D69 .6D78 .6D85 .23D1E .6D34 .6E2F",
  ".6E6E .3D33 .6ECB .6EC7 .23ED1 .6DF9 .6F6E .23F5E .23F8E .6FC6 .7039 .701E .701B .3D96 .704A .707D .7077 .70AD .20525 .7145 .24263 .719C .43AB .7228 .7235 .7250 .24608 .7280 .7295 .24735 .24814 .737A .738B .3EAC .73A5 .3EB8 .3EB8 .7447 .745C .7471 .7485 .74CA .3F1B .7524 .24C36 .753E .24C92 .7570 .2219F .7610 .24FA1 .24FB8 .25044 .3FFC .4008 .76F4 .250F3 .250F2 .25119 .25133 .771E + .771F .774A",
  ".4039 .778B .4046 .4096 .2541D .784E .788C .78CC .40E3 .25626 .7956 .2569A .256C5 .798F .79EB .412F .7A40 .7A4A .7A4F .2597C .25AA7 .25AA7 .7AAE .4202 .25BAB .7BC6 .7BC9 .4227 .25C80 .7CD2 .42A0 .7CE8 .7CE3 .7D00 .25F86 .7D63 .4301 .7DC7 .7E02 .7E45 .4334 .26228 .26247 .4359 .262D9 .7F7A .2633E .7F95 .7FFA .8005 .264DA .26523 .8060 .265A8 .8070 .2335F .43D5 .80B2 .8103 .440B .813E .5AB5 .267A7",
  ".267B5 .23393 .2339C .8201 .8204 .8F9E .446B .8291 .828B .829D .52B3 .82B1 .82B3 .82BD .82E6 .26B3C .82E5 .831D .8363 .83AD .8323 .83BD .83E7 .8457 .8353 .83CA .83CC .83DC .26C36 .26D6B .26CD5 .452B .84F1 .84F3 .8516 .273CA .8564 .26F2C .455D .4561 .26FB1 .270D2 .456B .8650 .865C .8667 .8669 .86A9 .8688 .870E .86E2 .8779 .8728 .876B .8786 .4D57 .87E1 .8801 .45F9 .8860 .8863 .27667 .88D7 .88DE",
  ".4635 .88FA .34BB .278AE .27966 .46BE .46C7 .8AA0 .8AED .8B8A .8C55 .27CA8 .8CAB .8CC1 .8D1B .8D77 .27F2F .20804 .8DCB .8DBC .8DF0 .208DE .8ED4 .8F38 .285D2 .285ED .9094 .90F1 .9111 .2872E .911B .9238 .92D7 + .927C .93F9 .9415 .28BFA .958B .4995 .95B7 .28D77 .49E6 .96C3 .5DB2 .9723 .29145 .2921A .4A6E .4A76 .97E0 .2940A .4AB2 .29496 .980B .980B .9829 .295B6 .98E2 .4B33 .9929 .99A7 .99C2 .99FE",
  ".4BCE .29B30 .9B12 .9C40 .9CFD .4CCE .4CED .9D67 .2A0CE .4CF8 .2A105 .2A20E .2A291 .9EBB .4D56 .9EF9 .9EFE .9F05 .9F0F .9F16 .9F3B .2A600"]

/-- Runs of code points with the same nonzero combining class. -/
def combiningRows : List String := [
  "300.314.E6 315.315.E8 316.319.DC 31A.31A.E8 31B.31B.D8 31C.320.DC 321.322.CA 323.326.DC 327.328.CA 329.333.DC 334.338.1 339.33C.DC 33D.344.E6 345.345.F0 346.346.E6 347.349.DC 34A.34C.E6 34D.34E.DC 350.352.E6 353.356.DC 357.357.E6 358.358.E8 359.35A.DC 35B.35B.E6 35C.35C.E9 35D.35E.EA 35F.35F.E9 360.361.EA 362.362.E9 363.36F.E6 483.487.E6 591.591.DC",
  "592.595.E6 596.596.DC 597.599.E6 59A.59A.DE 59B.59B.DC 59C.5A1.E6 5A2.5A7.DC 5A8.5A9.E6 5AA.5AA.DC 5AB.5AC.E6 5AD.5AD.DE 5AE.5AE.E4 5AF.5AF.E6 5B0.5B0.A 5B1.5B1.B 5B2.5B2.C 5B3.5B3.D 5B4.5B4.E 5B5.5B5.F 5B6.5B6.10 5B7.5B7.11 5B8.5B8.12 5B9.5BA.13 5BB.5BB.14 5BC.5BC.15 5BD.5BD.16 5BF.5BF.17 5C1.5C1.18 5C2.5C2.19 5C4.5C4.E6 5C5.5C5.DC 5C7.5C7.12 610.617.E6 618.618.1E",
  "619.619.1F 61A.61A.20 64B.64B.1B 64C.64C.1C 64D.64D.1D 64E.64E.1E 64F.64F.1F 650.650.20 651.651.21 652.652.22 653.654.E6 655.656.DC 657.65B.E6 65C.65C.DC 65D.65E.E6 65F.65F.DC 670.670.23 6D6.6DC.E6 6DF.6E2.E6 6E3.6E3.DC 6E4.6E4.E6 6E7.6E8.E6 6EA.6EA.DC 6EB.6EC.E6 6ED.6ED.DC 711.711.24 730.730.E6 731.731.DC 732.733.E6 734.734.DC 735.736.E6 737.739.DC",
  "73A.73A.E6 73B.73C.DC 73D.73D.E6 73E.73E.DC 73F.741.E6 742.742.DC 743.743.E6 744.744.DC 745.745.E6 746.746.DC 747.747.E6 748.748.DC 749.74A.E6 7EB.7F1.E6 7F2.7F2.DC 7F3.7F3.E6 7FD.7FD.DC 816.819.E6 81B.823.E6 825.827.E6 829.82D.E6 859.85B.DC 898.898.E6 899.89B.DC 89C.89F.E6 8CA.8CE.E6 8CF.8D3.DC 8D4.8E1.E6 8E3.8E3.DC 8E4.8E5.E6 8E6.8E6.DC 8E7.8E8.E6",
  "8E9.8E9.DC 8EA.8EC.E6 8ED.8EF.DC 8F0.8F0.1B 8F1.8F1.1C 8F2.8F2.1D 8F3.8F5.E6 8F6.8F6.DC 8F7.8F8.E6 8F9.8FA.DC 8FB.8FF.E6 93C.93C.7 94D.94D.9 951.951.E6 952.952.DC 953.954.E6 9BC.9BC.7 9CD.9CD.9 9FE.9FE.E6 A3C.A3C.7 A4D.A4D.9 ABC.ABC.7 ACD.ACD.9 B3C.B3C.7 B4D.B4D.9 BCD.BCD.9 C3C.C3C.7 C4D.C4D.9 C55.C55.54 C56.C56.5B CBC.CBC.7 CCD.CCD.9 D3B.D3C.9 D4D.D4D.9 DCA.DCA.9",
  "E38.E39.67 E3A.E3A.9 E48.E4B.6B EB8.EB9.76 EBA.EBA.9 EC8.ECB.7A F18.F19.DC F35.F35.DC F37.F37.DC F39.F39.D8 F71.F71.81 F72.F72.82 F74.F74.84 F7A.F7D.82 F80.F80.82 F82.F83.E6 F84.F84.9 F86.F87.E6 FC6.FC6.DC 1037.1037.7 1039.103A.9 108D.108D.DC 135D.135F.E6 1714.1715.9 1734.1734.9 17D2.17D2.9 17DD.17DD.E6 18A9.18A9.E4 1939.1939.DE 193A.193A.E6 193B.193B.DC 1A17.1A17.E6",
  "1A18.1A18.DC 1A60.1A60.9 1A75.1A7C.E6 1A7F.1A7F.DC 1AB0.1AB4.E6 1AB5.1ABA.DC 1ABB.1ABC.E6 1ABD.1ABD.DC 1ABF.1AC0.DC 1AC1.1AC2.E6 1AC3.1AC4.DC 1AC5.1AC9.E6 1ACA.1ACA.DC 1ACB.1ACE.E6 1B34.1B34.7 1B44.1B44.9 1B6B.1B6B.E6 1B6C.1B6C.DC 1B6D.1B73.E6 1BAA.1BAB.9 1BE6.1BE6.7 1BF2.1BF3.9 1C37.1C37.7 1CD0.1CD2.E6 1CD4.1CD4.1 1CD5.1CD9.DC 1CDA.1CDB.E6 1CDC.1CDF.DC",
  "1CE0.1CE0.E6 1CE2.1CE8.1 1CED.1CED.DC 1CF4.1CF4.E6 1CF8.1CF9.E6 1DC0.1DC1.E6 1DC2.1DC2.DC 1DC3.1DC9.E6 1DCA.1DCA.DC 1DCB.1DCC.E6 1DCD.1DCD.EA 1DCE.1DCE.D6 1DCF.1DCF.DC 1DD0.1DD0.CA 1DD1.1DF5.E6 1DF6.1DF6.E8 1DF7.1DF8.E4 1DF9.1DF9.DC 1DFA.1DFA.DA 1DFB.1DFB.E6 1DFC.1DFC.E9 1DFD.1DFD.DC 1DFE.1DFE.E6 1DFF.1DFF.DC 20D0.20D1.E6 20D2.20D3.1 20D4.20D7.E6 20D8.20DA.1",
  "20DB.20DC.E6 20E1.20E1.E6 20E5.20E6.1 20E7.20E7.E6 20E8.20E8.DC 20E9.20E9.E6 20EA.20EB.1 20EC.20EF.DC 20F0.20F0.E6 2CEF.2CF1.E6 2D7F.2D7F.9 2DE0.2DFF.E6 302A.302A.DA 302B.302B.E4 302C.302C.E8 302D.302D.DE 302E.302F.E0 3099.309A.8 A66F.A66F.E6 A674.A67D.E6 A69E.A69F.E6 A6F0.A6F1.E6 A806.A806.9 A82C.A82C.9 A8C4.A8C4.9 A8E0.A8F1.E6 A92B.A92D.DC A953.A953.9",
  "A9B3.A9B3.7 A9C0.A9C0.9 AAB0.AAB0.E6 AAB2.AAB3.E6 AAB4.AAB4.DC AAB7.AAB8.E6 AABE.AABF.E6 AAC1.AAC1.E6 AAF6.AAF6.9 ABED.ABED.9 FB1E.FB1E.1A FE20.FE26.E6 FE27.FE2D.DC FE2E.FE2F.E6 101FD.101FD.DC 102E0.102E0.DC 10376.1037A.E6 10A0D.10A0D.DC 10A0F.10A0F.E6 10A38.10A38.E6 10A39.10A39.1 10A3A.10A3A.DC 10A3F.10A3F.9 10AE5.10AE5.E6 10AE6.10AE6.DC 10D24.10D27.E6",
  "10EAB.10EAC.E6 10F46.10F47.DC 10F48.10F4A.E6 10F4B.10F4B.DC 10F4C.10F4C.E6 10F4D.10F50.DC 10F82.10F82.E6 10F83.10F83.DC 10F84.10F84.E6 10F85.10F85.DC 11046.11046.9 11070.11070.9 1107F.1107F.9 110B9.110B9.9 110BA.110BA.7 11100.11102.E6 11133.11134.9 11173.11173.7 111C0.111C0.9 111CA.111CA.7 11235.11235.9 11236.11236.7 112E9.112E9.7 112EA.112EA.9",
  "1133B.1133C.7 1134D.1134D.9 11366.1136C.E6 11370.11374.E6 11442.11442.9 11446.11446.7 1145E.1145E.E6 114C2.114C2.9 114C3.114C3.7 115BF.115BF.9 115C0.115C0.7 1163F.1163F.9 116B6.116B6.9 116B7.116B7.7 1172B.1172B.9 11839.11839.9 1183A.1183A.7 1193D.1193E.9 11943.11943.7 119E0.119E0.9 11A34.11A34.9 11A47.11A47.9 11A99.11A99.9 11C3F.11C3F.9",
  "11D42.11D42.7 11D44.11D45.9 11D97.11D97.9 16AF0.16AF4.1 16B30.16B36.E6 16FF0.16FF1.6 1BC9E.1BC9E.1 1D165.1D166.D8 1D167.1D169.1 1D16D.1D16D.E2 1D16E.1D172.D8 1D17B.1D182.DC 1D185.1D189.E6 1D18A.1D18B.DC 1D1AA.1D1AD.E6 1D242.1D244.E6 1E000.1E006.E6 1E008.1E018.E6 1E01B.1E021.E6 1E023.1E024.E6 1E026.1E02A.E6 1E130.1E136.E6 1E2AE.1E2AE.E6 1E2EC.1E2EF.E6 1E8D0.1E8D6.DC 1E944.1E949.E6 1E94A.1E94A.7"]

/-- Pairs of code points with the primary composite they make. -/
def compositionRows : List String := [
  "41.300.C0 41.301.C1 41.302.C2 41.303.C3 41.308.C4 41.30A.C5 43.327.C7 45.300.C8 45.301.C9 45.302.CA 45.308.CB 49.300.CC 49.301.CD 49.302.CE 49.308.CF 4E.303.D1 .300.D2 4F.301.D3 4F.302.D4 4F.303.D5 4F.308.D6 55.300.D9 55.301.DA 55.302.DB 55.308.DC 59.301.DD 61.300.E0 61.301.E1 61.302.E2 61.303.E3 61.308.E4 61.30A.E5 63.327.E7 65.300.E8 65.301.E9 65.302.EA 65.308.EB 69.300.EC 69.301.ED 69.302.EE",
  "69.308.EF 6E.303.F1 .300.F2 6F.301.F3 6F.302.F4 6F.303.F5 6F.308.F6 75.300.F9 75.301.FA 75.302.FB 75.308.FC 79.301.FD 79.308.FF 41.304.100 61.304.101 41.306.102 61.306.103 41.328.104 61.328.105 43.301.106 63.301.107 43.302.108 63.302.109 43.307.10A 63.307.10B 43.30C.10C 63.30C.10D 44.30C.10E 64.30C.10F 45.304.112 65.304.113 45.306.114 65.306.115 45.307.116 65.307.117 45.328.118 65.328.119",
  "45.30C.11A 65.30C.11B 47.302.11C 67.302.11D 47.306.11E 67.306.11F 47.307.120 67.307.121 47.327.122 67.327.123 48.302.124 68.302.125 49.303.128 69.303.129 49.304.12A 69.304.12B 49.306.12C 69.306.12D 49.328.12E 69.328.12F 49.307.130 .302.134 6A.302.135 4B.327.136 6B.327.137 4C.301.139 6C.301.13A 4C.327.13B 6C.327.13C 4C.30C.13D 6C.30C.13E 4E.301.143 6E.301.144 4E.327.145 6E.327.146 4E.30C.147",
  "6E.30C.148 4F.304.14C 6F.304.14D 4F.306.14E 6F.306.14F 4F.30B.150 6F.30B.151 52.301.154 72.301.155 52.327.156 72.327.157 52.30C.158 72.30C.159 53.301.15A 73.301.15B 53.302.15C 73.302.15D 53.327.15E 73.327.15F 53.30C.160 73.30C.161 54.327.162 74.327.163 54.30C.164 74.30C.165 55.303.168 75.303.169 55.304.16A 75.304.16B 55.306.16C 75.306.16D 55.30A.16E 75.30A.16F 55.30B.170 75.30B.171 55.328.172",
  "75.328.173 57.302.174 77.302.175 59.302.176 79.302.177 59.308.178 .301.179 7A.301.17A 5A.307.17B 7A.307.17C 5A.30C.17D 7A.30C.17E 4F.31B.1A0 6F.31B.1A1 55.31B.1AF 75.31B.1B0 41.30C.1CD 61.30C.1CE 49.30C.1CF 69.30C.1D0 4F.30C.1D1 6F.30C.1D2 55.30C.1D3 75.30C.1D4 DC.304.1D5 FC.304.1D6 DC.301.1D7 FC.301.1D8 DC.30C.1D9 FC.30C.1DA DC.300.1DB FC.300.1DC C4.304.1DE E4.304.1DF 226.304.1E0 + C6.304.1E2",
  "E6.304.1E3 47.30C.1E6 67.30C.1E7 4B.30C.1E8 6B.30C.1E9 4F.328.1EA 6F.328.1EB 1EA.304.1EC + 1B7.30C.1EE 292.30C.1EF 6A.30C.1F0 47.301.1F4 67.301.1F5 4E.300.1F8 6E.300.1F9 C5.301.1FA E5.301.1FB C6.301.1FC E6.301.1FD D8.301.1FE F8.301.1FF 41.30F.200 61.30F.201 41.311.202 61.311.203 45.30F.204 65.30F.205 45.311.206 65.311.207 49.30F.208 69.30F.209 49.311.20A 69.311.20B 4F.30F.20C 6F.30F.20D 4F.311.20E",
  "6F.311.20F 52.30F.210 72.30F.211 52.311.212 72.311.213 55.30F.214 75.30F.215 55.311.216 75.311.217 53.326.218 73.326.219 54.326.21A 74.326.21B 48.30C.21E 68.30C.21F 41.307.226 61.307.227 45.327.228 65.327.229 D6.304.22A F6.304.22B D5.304.22C F5.304.22D 4F.307.22E 6F.307.22F 22E.304.230 + 59.304.232 79.304.233 A8.301.385 391.301.386 395.301.388 397.301.389 399.301.38A 39F.301.38C 3A5.301.38E",
  "3A9.301.38F 3CA.301.390 399.308.3AA 3A5.308.3AB 3B1.301.3AC 3B5.301.3AD 3B7.301.3AE 3B9.301.3AF 3CB.301.3B0 3B9.308.3CA 3C5.308.3CB 3BF.301.3CC 3C5.301.3CD 3C9.301.3CE 3D2.301.3D3 3D2.308.3D4 415.300.400 415.308.401 413.301.403 406.308.407 41A.301.40C 418.300.40D 423.306.40E 418.306.419 438.306.439 435.300.450 435.308.451 433.301.453 456.308.457 43A.301.45C 438.300.45D 443.306.45E 474.30F.476 +",
  "416.306.4C1 436.306.4C2 410.306.4D0 430.306.4D1 410.308.4D2 430.308.4D3 415.306.4D6 435.306.4D7 4D8.308.4DA + 416.308.4DC 436.308.4DD 417.308.4DE 437.308.4DF 418.304.4E2 438.304.4E3 418.308.4E4 438.308.4E5 41E.308.4E6 43E.308.4E7 4E8.308.4EA + 42D.308.4EC 44D.308.4ED 423.304.4EE 443.304.4EF 423.308.4F0 443.308.4F1 423.30B.4F2 443.30B.4F3 427.308.4F4 447.308.4F5 42B.308.4F8 44B.308.4F9 627.653.622",
  "627.654.623 648.654.624 627.655.625 64A.654.626 6D5.654.6C0 6C1.654.6C2 6D2.654.6D3 928.93C.929 930.93C.931 933.93C.934 9C7.9BE.9CB 9C7.9D7.9CC B47.B56.B48 B47.B3E.B4B B47.B57.B4C B92.BD7.B94 BC6.BBE.BCA + BC6.BD7.BCC C46.C56.C48 CBF.CD5.CC0 CC6.CD5.CC7 CC6.CD6.CC8 CC6.CC2.CCA CCA.CD5.CCB D46.D3E.D4A + D46.D57.D4C DD9.DCA.DDA DD9.DCF.DDC DDC.DCA.DDD DD9.DDF.DDE 1025.102E.1026 1B05.1B35.1B06",
  "/4 1B11.1B35.1B12 1B3A.1B35.1B3B = 1B3E.1B35.1B40 + 1B42.1B35.1B43 41.325.1E00 61.325.1E01 42.307.1E02 62.307.1E03 42.323.1E04 62.323.1E05 42.331.1E06 62.331.1E07 C7.301.1E08 E7.301.1E09 44.307.1E0A 64.307.1E0B 44.323.1E0C 64.323.1E0D 44.331.1E0E 64.331.1E0F 44.327.1E10 64.327.1E11 44.32D.1E12 64.32D.1E13 112.300.1E14 +",
  "112.301.1E16 + 45.32D.1E18 65.32D.1E19 45.330.1E1A 65.330.1E1B 228.306.1E1C + 46.307.1E1E 66.307.1E1F 47.304.1E20 67.304.1E21 48.307.1E22 68.307.1E23 48.323.1E24 68.323.1E25 48.308.1E26 68.308.1E27 48.327.1E28 68.327.1E29 48.32E.1E2A 68.32E.1E2B 49.330.1E2C 69.330.1E2D CF.301.1E2E EF.301.1E2F 4B.301.1E30 6B.301.1E31 4B.323.1E32 6B.323.1E33 4B.331.1E34 6B.331.1E35 4C.323.1E36 6C.323.1E37",
  "1E36.304.1E38 + 4C.331.1E3A 6C.331.1E3B 4C.32D.1E3C 6C.32D.1E3D 4D.301.1E3E 6D.301.1E3F 4D.307.1E40 6D.307.1E41 4D.323.1E42 6D.323.1E43 4E.307.1E44 6E.307.1E45 4E.323.1E46 6E.323.1E47 4E.331.1E48 6E.331.1E49 4E.32D.1E4A 6E.32D.1E4B D5.301.1E4C F5.301.1E4D D5.308.1E4E F5.308.1E4F 14C.300.1E50 + 14C.301.1E52 + 50.301.1E54 70.301.1E55 50.307.1E56 70.307.1E57 52.307.1E58 72.307.1E59 52.323.1E5A",
  "72.323.1E5B 1E5A.304.1E5C + 52.331.1E5E 72.331.1E5F 53.307.1E60 73.307.1E61 53.323.1E62 73.323.1E63 15A.307.1E64 + 160.307.1E66 + 1E62.307.1E68 + 54.307.1E6A 74.307.1E6B 54.323.1E6C 74.323.1E6D 54.331.1E6E 74.331.1E6F 54.32D.1E70 74.32D.1E71 55.324.1E72 75.324.1E73 55.330.1E74 75.330.1E75 55.32D.1E76 75.32D.1E77 168.301.1E78 + .308.1E7A + 56.303.1E7C 76.303.1E7D 56.323.1E7E 76.323.1E7F 57.300.1E80",
  "77.300.1E81 57.301.1E82 77.301.1E83 57.308.1E84 77.308.1E85 57.307.1E86 77.307.1E87 57.323.1E88 77.323.1E89 58.307.1E8A 78.307.1E8B 58.308.1E8C 78.308.1E8D 59.307.1E8E 79.307.1E8F 5A.302.1E90 7A.302.1E91 5A.323.1E92 7A.323.1E93 5A.331.1E94 7A.331.1E95 68.331.1E96 74.308.1E97 77.30A.1E98 79.30A.1E99 17F.307.1E9B 41.323.1EA0 61.323.1EA1 41.309.1EA2 61.309.1EA3 C2.301.1EA4 E2.301.1EA5 C2.300.1EA6",
  "E2.300.1EA7 C2.309.1EA8 E2.309.1EA9 C2.303.1EAA E2.303.1EAB 1EA0.302.1EAC + 102.301.1EAE + 102.300.1EB0 + 102.309.1EB2 + 102.303.1EB4 + 1EA0.306.1EB6 + 45.323.1EB8 65.323.1EB9 45.309.1EBA 65.309.1EBB 45.303.1EBC 65.303.1EBD CA.301.1EBE EA.301.1EBF CA.300.1EC0 EA.300.1EC1 CA.309.1EC2 EA.309.1EC3 CA.303.1EC4 EA.303.1EC5 1EB8.302.1EC6 + 49.309.1EC8 69.309.1EC9 49.323.1ECA 69.323.1ECB 4F.323.1ECC",
  "6F.323.1ECD 4F.309.1ECE 6F.309.1ECF D4.301.1ED0 F4.301.1ED1 D4.300.1ED2 F4.300.1ED3 D4.309.1ED4 F4.309.1ED5 D4.303.1ED6 F4.303.1ED7 1ECC.302.1ED8 + 1A0.301.1EDA + 1A0.300.1EDC + 1A0.309.1EDE + 1A0.303.1EE0 + 1A0.323.1EE2 + 55.323.1EE4 75.323.1EE5 55.309.1EE6 75.309.1EE7 1AF.301.1EE8 + 1AF.300.1EEA + 1AF.309.1EEC + 1AF.303.1EEE + 1AF.323.1EF0 + 59.300.1EF2 79.300.1EF3 59.323.1EF4 79.323.1EF5",
  "59.309.1EF6 79.309.1EF7 59.303.1EF8 79.303.1EF9 3B1.313.1F00 3B1.314.1F01 1F00.300.1F02 + 1F00.301.1F04 + 1F00.342.1F06 + 391.313.1F08 391.314.1F09 1F08.300.1F0A + 1F08.301.1F0C + 1F08.342.1F0E + 3B5.313.1F10 3B5.314.1F11 1F10.300.1F12 + 1F10.301.1F14 + 395.313.1F18 395.314.1F19 1F18.300.1F1A + 1F18.301.1F1C + 3B7.313.1F20 3B7.314.1F21 1F20.300.1F22 + 1F20.301.1F24 + 1F20.342.1F26 + 397.313.1F28",
  "397.314.1F29 1F28.300.1F2A + 1F28.301.1F2C + 1F28.342.1F2E + 3B9.313.1F30 3B9.314.1F31 1F30.300.1F32 + 1F30.301.1F34 + 1F30.342.1F36 + 399.313.1F38 399.314.1F39 1F38.300.1F3A + 1F38.301.1F3C + 1F38.342.1F3E + 3BF.313.1F40 3BF.314.1F41 1F40.300.1F42 + 1F40.301.1F44 + 39F.313.1F48 39F.314.1F49 1F48.300.1F4A + 1F48.301.1F4C + 3C5.313.1F50 3C5.314.1F51 1F50.300.1F52 + 1F50.301.1F54 + 1F50.342.1F56 +",
  "3A5.314.1F59 1F59.300.1F5B 1F59.301.1F5D 1F59.342.1F5F 3C9.313.1F60 3C9.314.1F61 1F60.300.1F62 + 1F60.301.1F64 + 1F60.342.1F66 + 3A9.313.1F68 3A9.314.1F69 1F68.300.1F6A + 1F68.301.1F6C + 1F68.342.1F6E + 3B1.300.1F70 3B5.300.1F72 /2 3BF.300.1F78 3C5.300.1F7A 3C9.300.1F7C 1F00.345.1F80 *15 1F20.345.1F90 *15 1F60.345.1FA0 *15 3B1.306.1FB0 3B1.304.1FB1 1F70.345.1FB2 3B1.345.1FB3",
  "3AC.345.1FB4 3B1.342.1FB6 1FB6.345.1FB7 391.306.1FB8 391.304.1FB9 391.300.1FBA 391.345.1FBC A8.342.1FC1 1F74.345.1FC2 3B7.345.1FC3 3AE.345.1FC4 3B7.342.1FC6 1FC6.345.1FC7 395.300.1FC8 = 397.345.1FCC 1FBF.300.1FCD 1FBF.301.1FCE 1FBF.342.1FCF 3B9.306.1FD0 3B9.304.1FD1 3CA.300.1FD2 3B9.342.1FD6 3CA.342.1FD7 399.306.1FD8 399.304.1FD9 399.300.1FDA 1FFE.300.1FDD 1FFE.301.1FDE 1FFE.342.1FDF",
  "3C5.306.1FE0 3C5.304.1FE1 3CB.300.1FE2 3C1.313.1FE4 3C1.314.1FE5 3C5.342.1FE6 3CB.342.1FE7 3A5.306.1FE8 3A5.304.1FE9 3A5.300.1FEA 3A1.314.1FEC A8.300.1FED 1F7C.345.1FF2 3C9.345.1FF3 3CE.345.1FF4 3C9.342.1FF6 1FF6.345.1FF7 39F.300.1FF8 3A9.300.1FFA 3A9.345.1FFC 2190.338.219A 2192.338.219B 2194.338.21AE 21D0.338.21CD 21D4.338.21CE 21D2.338.21CF 2203.338.2204 2208.338.2209 220B.338.220C 2223.338.2224",
  "= 223C.338.2241 2243.338.2244 2245.338.2247 2248.338.2249 3D.338.2260 2261.338.2262 224D.338.226D 3C.338.226E 3E.338.226F 2264.338.2270 + 2272.338.2274 + 2276.338.2278 + 227A.338.2280 + 2282.338.2284 + 2286.338.2288 + 22A2.338.22AC 22A8.338.22AD + 22AB.338.22AF 227C.338.22E0 + 2291.338.22E2 + 22B2.338.22EA *3 304B.3099.304C /4",
  "/7 3064.3099.3065 /2 306F.3099.3070 306F.309A.3071 3072.3099.3073 3072.309A.3074 3075.3099.3076 3075.309A.3077 3078.3099.3079 3078.309A.307A 307B.3099.307C 307B.309A.307D 3046.3099.3094 309D.3099.309E 30AB.3099.30AC /3",
  "/8 30C4.3099.30C5 /2 30CF.3099.30D0 30CF.309A.30D1 30D2.3099.30D3 30D2.309A.30D4 30D5.3099.30D6 30D5.309A.30D7 30D8.3099.30D9 30D8.309A.30DA 30DB.3099.30DC 30DB.309A.30DD 30A6.3099.30F4 30EF.3099.30F7 *3 30FD.3099.30FE 11099.110BA.1109A =",
  "110A5.110BA.110AB 11131.11127.1112E + 11347.1133E.1134B 11347.11357.1134C 114B9.114BA.114BB 114B9.114B0.114BC 114B9.114BD.114BE 115B8.115AF.115BA + 11935.11930.11938"]

/-- Runs of code points whose direction is left to right in Unicode 3.2. -/
def leftToRightRows : List String := [
  "41.5A 61.7A AA.AA B5.B5 BA.BA C0.D6 D8.F6 F8.220 222.233 250.2AD 2B0.2B8 2BB.2C1 2D0.2D1 2E0.2E4 2EE.2EE 37A.37A 386.386 388.38A 38C.38C 38E.3A1 3A3.3CE 3D0.3F5 400.482 48A.4CE 4D0.4F5 4F8.4F9 500.50F 531.556 559.55F 561.587 589.589 903.903 905.939 93D.940 949.94C 950.950 958.961 964.970 982.983 985.98C 98F.990 993.9A8 9AA.9B0 9B2.9B2 9B6.9B9 9BE.9C0 9C7.9C8 9CB.9CC 9D7.9D7 9DC.9DD",
  "9DF.9E1 9E6.9F1 9F4.9FA A05.A0A A0F.A10 A13.A28 A2A.A30 A32.A33 A35.A36 A38.A39 A3E.A40 A59.A5C A5E.A5E A66.A6F A72.A74 A83.A83 A85.A8B A8D.A8D A8F.A91 A93.AA8 AAA.AB0 AB2.AB3 AB5.AB9 ABD.AC0 AC9.AC9 ACB.ACC AD0.AD0 AE0.AE0 AE6.AEF B02.B03 B05.B0C B0F.B10 B13.B28 B2A.B30 B32.B33 B36.B39 B3D.B3E B40.B40 B47.B48 B4B.B4C B57.B57 B5C.B5D B5F.B61 B66.B70 B83.B83 B85.B8A B8E.B90 B92.B95",
  "B99.B9A B9C.B9C B9E.B9F BA3.BA4 BA8.BAA BAE.BB5 BB7.BB9 BBE.BBF BC1.BC2 BC6.BC8 BCA.BCC BD7.BD7 BE7.BF2 C01.C03 C05.C0C C0E.C10 C12.C28 C2A.C33 C35.C39 C41.C44 C60.C61 C66.C6F C82.C83 C85.C8C C8E.C90 C92.CA8 CAA.CB3 CB5.CB9 CBE.CBE CC0.CC4 CC7.CC8 CCA.CCB CD5.CD6 CDE.CDE CE0.CE1 CE6.CEF D02.D03 D05.D0C D0E.D10 D12.D28 D2A.D39 D3E.D40 D46.D48 D4A.D4C D57.D57 D60.D61 D66.D6F D82.D83",
  "D85.D96 D9A.DB1 DB3.DBB DBD.DBD DC0.DC6 DCF.DD1 DD8.DDF DF2.DF4 E01.E30 E32.E33 E40.E46 E4F.E5B E81.E82 E84.E84 E87.E88 E8A.E8A E8D.E8D E94.E97 E99.E9F EA1.EA3 EA5.EA5 = EAA.EAB EAD.EB0 EB2.EB3 EBD.EBD EC0.EC4 EC6.EC6 ED0.ED9 EDC.EDD F00.F17 F1A.F34 F36.F36 = F3E.F47 F49.F6A F7F.F7F F85.F85 F88.F8B FBE.FC5 FC7.FCC FCF.FCF 1000.1021 1023.1027 1029.102A 102C.102C",
  "1031.1031 1038.1038 1040.1057 10A0.10C5 10D0.10F8 10FB.10FB 1100.1159 115F.11A2 11A8.11F9 1200.1206 1208.1246 1248.1248 124A.124D 1250.1256 1258.1258 125A.125D 1260.1286 1288.1288 128A.128D 1290.12AE 12B0.12B0 12B2.12B5 12B8.12BE 12C0.12C0 12C2.12C5 12C8.12CE 12D0.12D6 12D8.12EE 12F0.130E 1310.1310 1312.1315 1318.131E 1320.1346 1348.135A 1361.137C 13A0.13F4",
  "1401.1676 1681.169A 16A0.16F0 1700.170C 170E.1711 1720.1731 1735.1736 1740.1751 1760.176C 176E.1770 1780.17B6 17BE.17C5 17C7.17C8 17D4.17DA 17DC.17DC 17E0.17E9 1810.1819 1820.1877 1880.18A8 1E00.1E9B 1EA0.1EF9 1F00.1F15 1F18.1F1D 1F20.1F45 1F48.1F4D 1F50.1F57 1F59.1F59 /2 1F5F.1F7D 1F80.1FB4 1FB6.1FBC 1FBE.1FBE 1FC2.1FC4 1FC6.1FCC 1FD0.1FD3",
  "1FD6.1FDB 1FE0.1FEC 1FF2.1FF4 1FF6.1FFC 200E.200E 2071.2071 207F.207F 2102.2102 2107.2107 210A.2113 2115.2115 2119.211D 2124.2124 /2 212A.212D 212F.2131 2133.2139 213D.213F 2145.2149 2160.2183 2336.237A 2395.2395 249C.24E9 3005.3007 3021.3029 3031.3035 3038.303C 3041.3096 309D.309F 30A1.30FA 30FC.30FF 3105.312C 3131.318E 3190.31B7 31F0.321C",
  "3220.3243 3260.327B 327F.32B0 32C0.32CB 32D0.32FE 3300.3376 337B.33DD 33E0.33FE 3400.4DB5 4E00.9FA5 A000.A48C AC00.D7A3 D800.FA2D FA30.FA6A FB00.FB06 FB13.FB17 FF21.FF3A FF41.FF5A FF66.FFBE FFC2.FFC7 FFCA.FFCF FFD2.FFD7 FFDA.FFDC 10300.1031E 10320.10323 10330.1034A 10400.10425 10428.1044D 1D000.1D0F5 1D100.1D126 1D12A.1D166 1D16A.1D172 1D183.1D184 1D18C.1D1A9",
  "1D1AE.1D1DD 1D400.1D454 1D456.1D49C 1D49E.1D49F 1D4A2.1D4A2 1D4A5.1D4A6 1D4A9.1D4AC 1D4AE.1D4B9 1D4BB.1D4BB 1D4BD.1D4C0 1D4C2.1D4C3 1D4C5.1D505 1D507.1D50A 1D50D.1D514 1D516.1D51C 1D51E.1D539 1D53B.1D53E 1D540.1D544 1D546.1D546 1D54A.1D550 1D552.1D6A3 1D6A8.1D7C9 20000.2A6D6 2F800.2FA1D F0000.FFFFD 100000.10FFFD"]

end MailIngest.Text.Nameprep
