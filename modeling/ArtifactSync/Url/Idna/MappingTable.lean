namespace ArtifactSync.Url.Idna

def keptRanges : String :=
  "0-40 5B-7F A1-A7 A9 AB-AC AE B0-B1 B6-B7 BB BF D7 DF-FF 101 103 105 107 109 10B 10D 10F 111 113
115 117 119 11B 11D 11F 121 123 125 127 129 12B 12D 12F 131 135 137-138 13A 13C 13E 142 144 146
148 14B 14D 14F 151 153 155 157 159 15B 15D 15F 161 163 165 167 169 16B 16D 16F 171 173 175 177
17A 17C 17E 180 183 185 188 18C-18D 192 195 199-19B 19E 1A1 1A3 1A5 1A8 1AA-1AB 1AD 1B0 1B4 1B6
1B9-1BB 1BD-1C3 1CE 1D0 1D2 1D4 1D6 1D8 1DA 1DC-1DD 1DF 1E1 1E3 1E5 1E7 1E9 1EB 1ED 1EF-1F0 1F5
1F9 1FB 1FD 1FF 201 203 205 207 209 20B 20D 20F 211 213 215 217 219 21B 21D 21F 221 223 225 227
229 22B 22D 22F 231 233-239 23C 23F-240 242 247 249 24B 24D 24F-2AF 2B9-2D7 2DE-2DF 2E5-33F 342
346-34E 350-36F 371 373 375 377 37B-37D 390 3AC-3CE 3D7 3D9 3DB 3DD 3DF 3E1 3E3 3E5 3E7 3E9 3EB
3ED 3EF 3F3 3F6 3F8 3FB-3FC 430-45F 461 463 465 467 469 46B 46D 46F 471 473 475 477 479 47B 47D
47F 481-489 48B 48D 48F 491 493 495 497 499 49B 49D 49F 4A1 4A3 4A5 4A7 4A9 4AB 4AD 4AF 4B1 4B3
4B5 4B7 4B9 4BB 4BD 4BF 4C2 4C4 4C6 4C8 4CA 4CC 4CE-4CF 4D1 4D3 4D5 4D7 4D9 4DB 4DD 4DF 4E1 4E3
4E5 4E7 4E9 4EB 4ED 4EF 4F1 4F3 4F5 4F7 4F9 4FB 4FD 4FF 501 503 505 507 509 50B 50D 50F 511 513
515 517 519 51B 51D 51F 521 523 525 527 529 52B 52D 52F 559-586 588-58A 58D-58F 591-5C7 5D0-5EA
5EF-5F4 606-61B 61D-674 679-6DC 6DE-70D 710-74A 74D-7B1 7C0-7FA 7FD-82D 830-83E 840-85B 85E
860-86A 870-88F 897-8E1 8E3-957 960-983 985-98C 98F-990 993-9A8 9AA-9B0 9B2 9B6-9B9 9BC-9C4
9C7-9C8 9CB-9CE 9D7 9E0-9E3 9E6-9FE A01-A03 A05-A0A A0F-A10 A13-A28 A2A-A30 A32 A35 A38-A39 A3C
A3E-A42 A47-A48 A4B-A4D A51 A5C A66-A76 A81-A83 A85-A8D A8F-A91 A93-AA8 AAA-AB0 AB2-AB3 AB5-AB9
ABC-AC5 AC7-AC9 ACB-ACD AD0 AE0-AE3 AE6-AF1 AF9-AFF B01-B03 B05-B0C B0F-B10 B13-B28 B2A-B30
B32-B33 B35-B39 B3C-B44 B47-B48 B4B-B4D B55-B57 B5F-B63 B66-B77 B82-B83 B85-B8A B8E-B90 B92-B95
B99-B9A B9C B9E-B9F BA3-BA4 BA8-BAA BAE-BB9 BBE-BC2 BC6-BC8 BCA-BCD BD0 BD7 BE6-BFA C00-C0C
C0E-C10 C12-C28 C2A-C39 C3C-C44 C46-C48 C4A-C4D C55-C56 C58-C5A C5C-C5D C60-C63 C66-C6F C77-C8C
C8E-C90 C92-CA8 CAA-CB3 CB5-CB9 CBC-CC4 CC6-CC8 CCA-CCD CD5-CD6 CDC-CDE CE0-CE3 CE6-CEF CF1-CF3
D00-D0C D0E-D10 D12-D44 D46-D48 D4A-D4F D54-D63 D66-D7F D81-D83 D85-D96 D9A-DB1 DB3-DBB DBD
DC0-DC6 DCA DCF-DD4 DD6 DD8-DDF DE6-DEF DF2-DF4 E01-E32 E34-E3A E3F-E5B E81-E82 E84 E86-E8A
E8C-EA3 EA5 EA7-EB2 EB4-EBD EC0-EC4 EC6 EC8-ECE ED0-ED9 EDE-EDF F00-F0B F0D-F42 F44-F47 F49-F4C
F4E-F51 F53-F56 F58-F5B F5D-F68 F6A-F6C F71-F72 F74 F7A-F80 F82-F92 F94-F97 F99-F9C F9E-FA1
FA3-FA6 FA8-FAB FAD-FB8 FBA-FBC FBE-FCC FCE-FDA 1000-109F 10D0-10FB 10FD-115E 1161-1248
124A-124D 1250-1256 1258 125A-125D 1260-1288 128A-128D 1290-12B0 12B2-12B5 12B8-12BE 12C0
12C2-12C5 12C8-12D6 12D8-1310 1312-1315 1318-135A 135D-137C 1380-1399 13A0-13F5 1400-167F
1681-169C 16A0-16F8 1700-1715 171F-1736 1740-1753 1760-176C 176E-1770 1772-1773 1780-17B3
17B6-17DD 17E0-17E9 17F0-17F9 1800-180A 1810-1819 1820-1878 1880-18AA 18B0-18F5 1900-191E
1920-192B 1930-193B 1940 1944-196D 1970-1974 1980-19AB 19B0-19C9 19D0-19DA 19DE-1A1B 1A1E-1A5E
1A60-1A7C 1A7F-1A89 1A90-1A99 1AA0-1AAD 1AB0-1ADD 1AE0-1AEB 1B00-1B4C 1B4E-1BF3 1BFC-1C37
1C3B-1C49 1C4D-1C7F 1C8A 1CC0-1CC7 1CD0-1CFA 1D00-1D2B 1D2F 1D3B 1D4E 1D6B-1D77 1D79-1D9A
1DC0-1DFF 1E01 1E03 1E05 1E07 1E09 1E0B 1E0D 1E0F 1E11 1E13 1E15 1E17 1E19 1E1B 1E1D 1E1F 1E21
1E23 1E25 1E27 1E29 1E2B 1E2D 1E2F 1E31 1E33 1E35 1E37 1E39 1E3B 1E3D 1E3F 1E41 1E43 1E45 1E47
1E49 1E4B 1E4D 1E4F 1E51 1E53 1E55 1E57 1E59 1E5B 1E5D 1E5F 1E61 1E63 1E65 1E67 1E69 1E6B 1E6D
1E6F 1E71 1E73 1E75 1E77 1E79 1E7B 1E7D 1E7F 1E81 1E83 1E85 1E87 1E89 1E8B 1E8D 1E8F 1E91 1E93
1E95-1E99 1E9C-1E9D 1E9F 1EA1 1EA3 1EA5 1EA7 1EA9 1EAB 1EAD 1EAF 1EB1 1EB3 1EB5 1EB7 1EB9 1EBB
1EBD 1EBF 1EC1 1EC3 1EC5 1EC7 1EC9 1ECB 1ECD 1ECF 1ED1 1ED3 1ED5 1ED7 1ED9 1EDB 1EDD 1EDF 1EE1
1EE3 1EE5 1EE7 1EE9 1EEB 1EED 1EEF 1EF1 1EF3 1EF5 1EF7 1EF9 1EFB 1EFD 1EFF-1F07 1F10-1F15
1F20-1F27 1F30-1F37 1F40-1F45 1F50-1F57 1F60-1F67 1F70 1F72 1F74 1F76 1F78 1F7A 1F7C 1FB0-1FB1
1FB6 1FC6 1FD0-1FD2 1FD6-1FD7 1FE0-1FE2 1FE4-1FE7 1FF6 200C-200D 2010 2012-2016 2018-2023 2027
2030-2032 2035 2038-203B 203D 203F-2046 204A-2056 2058-205E 20A0-20A7 20A9-20C1 20D0-20F0 2104
2108 2114 2117-2118 211E-211F 2123 2125 2127 2129 212E 213A 2141-2144 214A-214F 2180-2182
2184-2188 218A-218B 2190-222B 222E 2231-2328 232B-2429 2440-244A 24EB-2A0B 2A0D-2A73 2A77-2ADB
2ADD-2B73 2B76-2BFF 2C30-2C5F 2C61 2C65-2C66 2C68 2C6A 2C6C 2C71 2C73-2C74 2C76-2C7B 2C81 2C83
2C85 2C87 2C89 2C8B 2C8D 2C8F 2C91 2C93 2C95 2C97 2C99 2C9B 2C9D 2C9F 2CA1 2CA3 2CA5 2CA7 2CA9
2CAB 2CAD 2CAF 2CB1 2CB3 2CB5 2CB7 2CB9 2CBB 2CBD 2CBF 2CC1 2CC3 2CC5 2CC7 2CC9 2CCB 2CCD 2CCF
2CD1 2CD3 2CD5 2CD7 2CD9 2CDB 2CDD 2CDF 2CE1 2CE3-2CEA 2CEC 2CEE-2CF1 2CF3 2CF9-2D25 2D27 2D2D
2D30-2D67 2D70 2D7F-2D96 2DA0-2DA6 2DA8-2DAE 2DB0-2DB6 2DB8-2DBE 2DC0-2DC6 2DC8-2DCE 2DD0-2DD6
2DD8-2DDE 2DE0-2E5D 2E80-2E99 2E9B-2E9E 2EA0-2EF2 3001 3003-3035 3037 303B-303F 3041-3096
3099-309A 309D-309E 30A0-30FE 3105-312F 3190-3191 31A0-31E5 31F0-31FF 3248-324F 327F 3400-A48C
A490-A4C6 A4D0-A62B A641 A643 A645 A647 A649 A64B A64D A64F A651 A653 A655 A657 A659 A65B A65D
A65F A661 A663 A665 A667 A669 A66B A66D-A67F A681 A683 A685 A687 A689 A68B A68D A68F A691 A693
A695 A697 A699 A69B A69E-A6F7 A700-A721 A723 A725 A727 A729 A72B A72D A72F-A731 A733 A735 A737
A739 A73B A73D A73F A741 A743 A745 A747 A749 A74B A74D A74F A751 A753 A755 A757 A759 A75B A75D
A75F A761 A763 A765 A767 A769 A76B A76D A76F A771-A778 A77A A77C A77F A781 A783 A785 A787-A78A
A78C A78E-A78F A791 A793-A795 A797 A799 A79B A79D A79F A7A1 A7A3 A7A5 A7A7 A7A9 A7AF A7B5 A7B7
A7B9 A7BB A7BD A7BF A7C1 A7C3 A7C8 A7CA A7CD A7CF A7D1 A7D3 A7D5 A7D7 A7D9 A7DB A7F6-A7F7
A7FA-A82C A830-A839 A840-A877 A880-A8C5 A8CE-A8D9 A8E0-A953 A95F-A97C A980-A9CD A9CF-A9D9
A9DE-A9FE AA00-AA36 AA40-AA4D AA50-AA59 AA5C-AAC2 AADB-AAF6 AB01-AB06 AB09-AB0E AB11-AB16
AB20-AB26 AB28-AB2E AB30-AB5B AB60-AB68 AB6A-AB6B ABC0-ABED ABF0-ABF9 AC00-D7A3 D7B0-D7C6
D7CB-D7FB FA0E-FA0F FA11 FA13-FA14 FA1F FA21 FA23-FA24 FA27-FA29 FB1E FBB2-FBD2 FD3E-FD4F
FD90-FD91 FDC8-FDCF FDFD-FDFF FE20-FE2F FE45-FE46 FE73 10000-1000B 1000D-10026 10028-1003A
1003C-1003D 1003F-1004D 10050-1005D 10080-100FA 10100-10102 10107-10133 10137-1018E 10190-1019C
101A0 101D0-101FD 10280-1029C 102A0-102D0 102E0-102FB 10300-10323 1032D-1034A 10350-1037A
10380-1039D 1039F-103C3 103C8-103D5 10428-1049D 104A0-104A9 104D8-104FB 10500-10527 10530-10563
1056F 10597-105A1 105A3-105B1 105B3-105B9 105BB-105BC 105C0-105F3 10600-10736 10740-10755
10760-10767 10780 10800-10805 10808 1080A-10835 10837-10838 1083C 1083F-10855 10857-1089E
108A7-108AF 108E0-108F2 108F4-108F5 108FB-1091B 1091F-10939 1093F-10959 10980-109B7 109BC-109CF
109D2-10A03 10A05-10A06 10A0C-10A13 10A15-10A17 10A19-10A35 10A38-10A3A 10A3F-10A48 10A50-10A58
10A60-10A9F 10AC0-10AE6 10AEB-10AF6 10B00-10B35 10B39-10B55 10B58-10B72 10B78-10B91 10B99-10B9C
10BA9-10BAF 10C00-10C48 10CC0-10CF2 10CFA-10D27 10D30-10D39 10D40-10D4F 10D69-10D85 10D8E-10D8F
10E60-10E7E 10E80-10EA9 10EAB-10EAD 10EB0-10EB1 10EC2-10EC7 10ED0-10ED8 10EFA-10F27 10F30-10F59
10F70-10F89 10FB0-10FCB 10FE0-10FF6 11000-1104D 11052-11075 1107F-110BC 110BE-110C2 110D0-110E8
110F0-110F9 11100-11134 11136-11147 11150-11176 11180-111DF 111E1-111F4 11200-11211 11213-11241
11280-11286 11288 1128A-1128D 1128F-1129D 1129F-112A9 112B0-112EA 112F0-112F9 11300-11303
11305-1130C 1130F-11310 11313-11328 1132A-11330 11332-11333 11335-11339 1133B-11344 11347-11348
1134B-1134D 11350 11357 1135D-11363 11366-1136C 11370-11374 11380-11389 1138B 1138E 11390-113B5
113B7-113C0 113C2 113C5 113C7-113CA 113CC-113D5 113D7-113D8 113E1-113E2 11400-1145B 1145D-11461
11480-114C7 114D0-114D9 11580-115B5 115B8-115DD 11600-11644 11650-11659 11660-1166C 11680-116B9
116C0-116C9 116D0-116E3 11700-1171A 1171D-1172B 11730-11746 11800-1183B 118C0-118F2 118FF-11906
11909 1190C-11913 11915-11916 11918-11935 11937-11938 1193B-11946 11950-11959 119A0-119A7
119AA-119D7 119DA-119E4 11A00-11A47 11A50-11AA2 11AB0-11AF8 11B00-11B09 11B60-11B67 11BC0-11BE1
11BF0-11BF9 11C00-11C08 11C0A-11C36 11C38-11C45 11C50-11C6C 11C70-11C8F 11C92-11CA7 11CA9-11CB6
11D00-11D06 11D08-11D09 11D0B-11D36 11D3A 11D3C-11D3D 11D3F-11D47 11D50-11D59 11D60-11D65
11D67-11D68 11D6A-11D8E 11D90-11D91 11D93-11D98 11DA0-11DA9 11DB0-11DDB 11DE0-11DE9 11EE0-11EF8
11F00-11F10 11F12-11F3A 11F3E-11F5A 11FB0 11FC0-11FF1 11FFF-12399 12400-1246E 12470-12474
12480-12543 12F90-12FF2 13000-1342F 13440-13455 13460-143FA 14400-14646 16100-16139 16800-16A38
16A40-16A5E 16A60-16A69 16A6E-16ABE 16AC0-16AC9 16AD0-16AED 16AF0-16AF5 16B00-16B45 16B50-16B59
16B5B-16B61 16B63-16B77 16B7D-16B8F 16D40-16D79 16E60-16E9A 16EBB-16ED3 16F00-16F4A 16F4F-16F87
16F8F-16F9F 16FE0-16FE4 16FF0-16FF6 17000-18CD5 18CFF-18D1E 18D80-18DF2 1AFF0-1AFF3 1AFF5-1AFFB
1AFFD-1AFFE 1B000-1B122 1B132 1B150-1B152 1B155 1B164-1B167 1B170-1B2FB 1BC00-1BC6A 1BC70-1BC7C
1BC80-1BC88 1BC90-1BC99 1BC9C-1BC9F 1CC00-1CCD5 1CCFA-1CCFC 1CD00-1CEB3 1CEBA-1CED0 1CEE0-1CEF0
1CF00-1CF2D 1CF30-1CF46 1CF50-1CFC3 1D000-1D0F5 1D100-1D126 1D129-1D15D 1D165-1D172 1D17B-1D1BA
1D1C1-1D1EA 1D200-1D245 1D2C0-1D2D3 1D2E0-1D2F3 1D300-1D356 1D360-1D378 1D800-1DA8B 1DA9B-1DA9F
1DAA1-1DAAF 1DF00-1DF1E 1DF25-1DF2A 1E000-1E006 1E008-1E018 1E01B-1E021 1E023-1E024 1E026-1E02A
1E08F 1E100-1E12C 1E130-1E13D 1E140-1E149 1E14E-1E14F 1E290-1E2AE 1E2C0-1E2F9 1E2FF 1E4D0-1E4F9
1E5D0-1E5FA 1E5FF 1E6C0-1E6DE 1E6E0-1E6F5 1E6FE-1E6FF 1E7E0-1E7E6 1E7E8-1E7EB 1E7ED-1E7EE
1E7F0-1E7FE 1E800-1E8C4 1E8C7-1E8D6 1E922-1E94B 1E950-1E959 1E95E-1E95F 1EC71-1ECB4 1ED01-1ED3D
1EEF0-1EEF1 1F000-1F02B 1F030-1F093 1F0A0-1F0AE 1F0B1-1F0BF 1F0C1-1F0CF 1F0D1-1F0F5 1F10B-1F10F
1F12F 1F150-1F169 1F16D-1F18F 1F191-1F1AD 1F1E6-1F1FF 1F260-1F265 1F300-1F6D8 1F6DC-1F6EC
1F6F0-1F6FC 1F700-1F7D9 1F7E0-1F7EB 1F7F0 1F800-1F80B 1F810-1F847 1F850-1F859 1F860-1F887
1F890-1F8AD 1F8B0-1F8BB 1F8C0-1F8C1 1F8D0-1F8D8 1F900-1FA57 1FA60-1FA6D 1FA70-1FA7C 1FA80-1FA8A
1FA8E-1FAC6 1FAC8 1FACD-1FADC 1FADF-1FAEA 1FAEF-1FAF8 1FB00-1FB92 1FB94-1FBEF 1FBFA 20000-2A6DF
2A700-2B81D 2B820-2CEAD 2CEB0-2EBE0 2EBF0-2EE5D 30000-3134A 31350-33479"

def omittedRanges : String :=
  "AD 34F 115F-1160 17B4-17B5 180B-180F 200B 2060-2064 206A-206F 3164 FE00-FE0F FEFF FFA0
1BCA0-1BCA3 1D173-1D17A E0100-E01EF"

def movedRuns : String :=
  "41-5A/1>20 A0<80 AA<49 B2-B3/1<80 B5>307 B9<88 BA<4B C0-D6/1>20 D8-DE/1>20 100-12E/2>1
134-136/2>1 139-13D/2>1 141-147/2>1 14A-176/2>1 178<79 179-17D/2>1 17F<10C 181>D2 182-184/2>1
186>CE 187>1 189-18A/1>CD 18B>1 18E>4F 18F>CA 190>CB 191>1 193>CD 194>CF 196>D3 197>D1 198>1
19C>D3 19D>D5 19F>D6 1A0-1A4/2>1 1A6>DA 1A7>1 1A9>DA 1AC>1 1AE>DA 1AF>1 1B1-1B2/1>D9 1B3-1B5/2>1
1B7>DB 1B8>1 1BC>1 1CD-1DB/2>1 1DE-1EE/2>1 1F4>1 1F6<61 1F7<38 1F8-21E/2>1 220<82 222-232/2>1
23A>2A2B 23B>1 23D<A3 23E>2A28 241>1 243<C3 244>45 245>47 246-24E/2>1 2B0<248 2B1<4B 2B2<248
2B3<241 2B4<3B 2B5<3A 2B6<35 2B7<240 2B8<23F 2E0<7D 2E1<275 2E2<26F 2E3<26B 2E4<4F 340-341/1<40
343<30 345>74 370-372/2>1 374<BB 376>1 37E<343 37F>74 386>26 387<2D0 388-38A/1>25 38C>40
38E-38F/1>3F 391-3A1/1>20 3A3-3AB/1>20 3CF>8 3D0<1E 3D1<19 3D2<D 3D3<6 3D4<9 3D5<F 3D6<16
3D8-3EE/2>1 3F0<36 3F1<30 3F2<2F 3F4<3C 3F5<40 3F7>1 3F9<36 3FA>1 3FD-3FF/1<82 400-40F/1>50
410-42F/1>20 460-480/2>1 48A-4BE/2>1 4C0>F 4C1-4CD/2>1 4D0-52E/2>1 531-556/1>30 F0C<1
10A0-10C5/1>1C60 10C7>1C60 10CD>1C60 10FC<20 13F8-13FD/1<8 1C80<184E 1C81<184D 1C82<1844
1C83-1C84/1<1842 1C85<1843 1C86<183C 1C87<1824 1C88>89C3 1C89>1 1C90-1CBA/1<BC0 1CBD-1CBF/1<BC0
1D2C<1CCB 1D2D<1C47 1D2E-1D30/2<1CCC 1D31<1CCC 1D32<1B55 1D33-1D3A/1<1CCC 1D3C<1CCD 1D3D<1B1A
1D3E<1CCE 1D3F<1CCD 1D40-1D41/1<1CCC 1D42<1CCB 1D43<1CE2 1D44-1D45/1<1AF4 1D46<44 1D47<1CE5
1D48-1D49/1<1CE4 1D4A<1AF1 1D4B-1D4C/1<1AF0 1D4D<1CE6 1D4F<1CE4 1D50<1CE3 1D51<1C06 1D52<1CE3
1D53<1AFF 1D54-1D55/1<3E 1D56<1CE6 1D57-1D58/1<1CE3 1D59<3C 1D5A<1AEB 1D5B<1CE5 1D5C<37
1D5D-1D5F/1<19AB 1D60-1D61/1<199A 1D62<1CF9 1D63<1CF1 1D64-1D65/1<1CEF 1D66-1D67/1<19B4
1D68<19A7 1D69-1D6A/1<19A3 1D78<193B 1D9B<1B49 1D9C<1D39 1D9D<1B48 1D9E<1CAE 1D9F<1B43 1DA0<1D3A
1DA1<1B42 1DA2<1B41 1DA3<1B3E 1DA4-1DA6/1<1B3C 1DA7<2C 1DA8<1B0B 1DA9<1B3C 1DAA<25 1DAB<1B0C
1DAC<1B3B 1DAD<1B3D 1DAE-1DB1/1<1B3C 1DB2<1B3A 1DB3-1DB4/1<1B31 1DB5<1C0A 1DB6-1DB7/1<1B2D
1DB8<9C 1DB9-1DBA/1<1B2E 1DBB<1D41 1DBC-1DBE/1<1B2C 1DBF<1A07 1E00-1E94/2>1 1E9B<3A 1E9E<1DBF
1EA0-1EFE/2>1 1F08-1F0F/1<8 1F18-1F1D/1<8 1F28-1F2F/1<8 1F38-1F3F/1<8 1F48-1F4D/1<8
1F59-1F5F/2<8 1F68-1F6F/1<8 1F71<1BC5 1F73<1BC6 1F75<1BC7 1F77<1BC8 1F79<1BAD 1F7B<1BAE
1F7D<1BAF 1FB8-1FB9/1<8 1FBA<4A 1FBB<1C0F 1FBE<1C05 1FC8<56 1FC9<1C1C 1FCA<56 1FCB<1C1D
1FD3<1C43 1FD8-1FD9/1<8 1FDA<64 1FDB<1C2C 1FE3<1C33 1FE8-1FE9/1<8 1FEA<70 1FEB<1C1E 1FEC<7
1FEF<1F8F 1FF8<80 1FF9<1C2D 1FFA<7E 1FFB<1C2D 2000<1FE0 2001<1FE1 2002<1FE2 2003<1FE3 2004<1FE4
2005<1FE5 2006<1FE6 2007<1FE7 2008<1FE8 2009<1FE9 200A<1FEA 2011<1 202F<200F 205F<203F 2070<2040
2071<2008 2074-2079/1<2040 207A<204F 207B>197 207C<203F 207D-207E/1<2055 207F<2011
2080-2089/1<2050 208A<205F 208B>187 208C<204F 208D-208E/1<2065 2090<202F 2091<202C 2092<2023
2093<201B 2094<1E3B 2095<202D 2096-2099/1<202B 209A<202A 209B-209C/1<2028 2102<209F 2107<1EAC
210A-210B/1<20A3 210C<20A4 210D<20A5 210E<20A6 210F<1FE8 2110<20A7 2111<20A8 2112<20A6
2113-2115/2<20A7 2119-211B/1<20A9 211C<20AA 211D<20AB 2124<20AA 2126<1D5D 2128<20AE 212A<20BF
212B<2046 212C-212D/1<20CA 212F<20CA 2130-2131/1<20CB 2132>1C 2133<20C6 2134<20C5
2135-2138/1<1B65 2139<20D0 213C<1D7C 213D<1D8A 213E<1D8B 213F<1D7F 2140>D1 2145<20E1
2146-2147/1<20E2 2148-2149/1<20DF 2160<20F7 2164<20EE 2169<20F1 216C<2100 216D-216E/1<210A
216F<2102 2170<2107 2174<20FE 2179<2101 217C<2110 217D-217E/1<211A 217F<2112 2183>1
2329-232A/1>CDF 2460-2468/1<242F 24B6-24CF/1<2455 24D0-24E9/1<246F 24EA<24BA 2C00-2C2F/1>30
2C60>1 2C62<29F7 2C63<EE6 2C64<29E7 2C67-2C6B/2>1 2C6D<2A1C 2C6E<29FD 2C6F<2A1F 2C70<2A1E 2C72>1
2C75>1 2C7C<2C12 2C7D<2C07 2C7E-2C7F/1<2A3F 2C80-2CE2/2>1 2CEB-2CED/2>1 2CF2>1 2D6F<E 2E9F>3D2E
2EF3>70AC 2F00>1F00 2F01>1F27 2F02>1F34 2F03>1F3C 2F04>1F55 2F05>1F80 2F06>1F86 2F07>1F99
2F08>1FB2 2F09>2236 2F0A>225B 2F0B>2260 2F0C>2276 2F0D>2289 2F0E>229D 2F0F>22D1 2F10>22E5
2F11>22EF 2F12>2389 2F13>23E6 2F14>2401 2F15>2405 2F16>2422 2F17>242A 2F18>2444 2F19>2450
2F1A>2468 2F1B>249B 2F1C>24AC 2F1D>24C6 2F1E>27B9 2F1F>2800 2F20>29CB 2F21>29E1 2F22>29E8
2F23>29F2 2F24>2A03 2F25>2A4E 2F26>2C2A 2F27>2C59 2F28>2CD0 2F29>2CE6 2F2A>2CF8 2F2B>2D0D
2F2C>2D42 2F2D>2D44 2F2E>2EAD 2F2F>2EB6 2F30>2EC1 2F31>2ECD 2F32>2F40 2F33>2F47 2F34>2F4B
2F35>2FBF 2F36>2FC8 2F37>2FD4 2F38>2FDB 2F39>3017 2F3A>3027 2F3B>3038 2F3C>3087 2F3D>32CB
2F3E>32F8 2F3F>330C 2F40>35EF 2F41>35F3 2F42>3645 2F43>3654 2F44>3660 2F45>3674 2F46>369A
2F47>369E 2F48>37A8 2F49>37BF 2F4A>37DE 2F4B>3BD5 2F4C>3C16 2F4D>3C2C 2F4E>3C65 2F4F>3C7C
2F50>3C84 2F51>3C8A 2F52>3CBD 2F53>3CC1 2F54>3CE0 2F55>4116 2F56>42D4 2F57>42DF 2F58>42E3
2F59>42E6 2F5A>42ED 2F5B>42FE 2F5C>42FF 2F5D>434F 2F5E>4426 2F5F>442A 2F60>457C 2F61>4585
2F62>45B6 2F63>45BC 2F64>45C4 2F65>45CB 2F66>4625 2F67>462B 2F68>470E 2F69>4714 2F6A>4744
2F6B>4754 2F6C>4782 2F6D>486E 2F6E>4874 2F6F>4884 2F70>49CA 2F71>4A47 2F72>4A4C 2F73>4B01
2F74>4B57 2F75>4B84 2F76>4CFD 2F77>4D81 2F78>4FBE 2F79>4FD8 2F7A>5010 2F7B>5042 2F7C>5085
2F7D>508F 2F7E>5094 2F7F>50B4 2F80>50FF 2F81>5108 2F82>5261 2F83>5267 2F84>526F 2F85>5277
2F86>5286 2F87>5294 2F88>5297 2F89>52E5 2F8A>52E8 2F8B>52ED 2F8C>56C1 2F8D>56DE 2F8E>58B2
2F8F>58BD 2F90>58D3 2F91>59ED 2F92>59F9 2F93>5A3F 2F94>5A6C 2F95>5CA2 2F96>5CB0 2F97>5CBE
2F98>5CE0 2F99>5D04 2F9A>5DCA 2F9B>5DD5 2F9C>5E17 2F9D>5F0E 2F9E>5F2C 2F9F>5FFC 2FA0>6010
2FA1>6014 2FA2>60EF 2FA3>61A6 2FA4>6222 2FA5>6227 2FA6>622B 2FA7>65D0 2FA8>65D8 2FA9>6673
2FAA>670C 2FAB>670E 2FAC>673C 2FAD>67A4 2FAE>67B0 2FAF>67B3 2FB0>67B9 2FB1>681A 2FB2>683B
2FB3>6840 2FB4>684D 2FB5>68F3 2FB6>6925 2FB7>6928 2FB8>69DE 2FB9>69E0 2FBA>69F2 2FBB>6AED
2FBC>6B1C 2FBD>6B22 2FBE>6B67 2FBF>6B70 2FC0>6B72 2FC1>6B7B 2FC2>6B98 2FC3>6D22 2FC4>6EB1
2FC5>6EBA 2FC6>6EDF 2FC7>6EF4 2FC8>6EFB 2FC9>6F04 2FCA>6F07 2FCB>6F2E 2FCC>6F31 2FCD>6F41
2FCE>6F45 2FCF>6F51 2FD0>6F6B 2FD1>6F79 2FD2>6F80 2FD3>6FBA 2FD4>6FC8 2FD5>6FCB 3000<2FE0
3002<2FD4 3036<24 3038>2309 3039-303A/1>230B 3131-3132/1<2031 3133<1F89 3134<2032
3135-3136/1<1F89 3137-3139/1<2034 313A-313F/1<1F8A 3140<2026 3141-3143/1<203B 3144<2023
3145-314E/1<203C 314F-3163/1<1FEE 3165-3166/1<2051 3167-3168/1<1FA0 3169<1F9D 316A<1F9C
316B<1F98 316C<1F95 316D<1F94 316E<2052 316F<1F92 3170<1F91 3171-3172/1<2054 3173<2053
3174-3175/1<2052 3176<204F 3177<204E 3178-317C/1<204D 317D<204B 317E<2048 317F<203F 3180<2039
3181<2035 3182-3183/1<1F91 3184-3186/1<202D 3187-3188/1<2003 3189<2001 318A-318B/1<1FF9
318C<1FF8 318D<1FEF 318E<1FED 3192>1C6E 3193>1CF9 3194>1C75 3195>2546 3196>1C74 3197>1C96
3198>1C73 3199>4399 319A>1CBF 319B>1C7E 319C>1C65 319D>278C 319E>2592 319F>1D1B 3244>230B
3245>2C37 3246>3341 3247>4948 3260<2160 3261-3262/1<215F 3263-3265/1<215E 3266<215D
3267-3268/1<215C 3269-326D/1<215B 326E>7992 326F>7E29 3270>8074 3271>850B 3272>8756 3273>89A1
3274>8E38 3275>92CF 3276>951A 3277>99B1 3278>9BFC 3279>9E47 327A>A092 327B>A2DD 327E>9432
3280>1B80 3281>1C0B 3282>1B87 3283>2458 3284>1C10 3285>1EE8 3286>1B7D 3287>1EE4 3288>1BD5
3289>20B8 328A>347E 328B>3DE0 328C>39A8 328D>349B 328E>5F43 328F>2490 3290>3355 3291>3599
3292>3477 3293>46AB 3294>2179 3295>3FE4 3296>5A0B 3297>46C6 3298>201C 3299>473F 329A>429D
329B>26D8 329C>5DCD 329D>1E8D 329E>20D2 329F>3A49 32A0>6565 32A1>1C70 32A2>1EF7 32A3>38C0
32A4>1B66 32A5>1B88 32A6>1B65 32A7>2B3F 32A8>214B 32A9>2092 32AA>28ED 32AB>28BB 32AC>4437
32AD>1C54 32AE>5A19 32AF>20A5 32B0>266C 32D0<22E 32D1<22D 32D2<22C 32D3<22B 32D4-32D5/1<22A
32D6<229 32D7<228 32D8<227 32D9<226 32DA<225 32DB<224 32DC<223 32DD<222 32DE<221 32DF<220
32E0<21F 32E1<21D 32E2<21C 32E3<21B 32E4-32E9/1<21A 32EA<218 32EB<216 32EC<214 32ED<212
32EE-32F2/1<210 32F3<20F 32F4<20E 32F5-32FA/1<20D 32FB-32FE/1<20C A640-A66C/2>1 A680-A69A/2>1
A69C<A252 A69D<A251 A722-A72E/2>1 A732-A76E/2>1 A770<1 A779-A77B/2>1 A77D<8A04 A77E-A786/2>1
A78B>1 A78D<A528 A790-A792/2>1 A796-A7A8/2>1 A7AA<A544 A7AB<A54F A7AC<A54B A7AD<A541 A7AE<A544
A7B0<A512 A7B1<A52A A7B2<A515 A7B3>3A0 A7B4-A7C2/2>1 A7C4<30 A7C5<A543 A7C6<8A38 A7C7-A7C9/2>1
A7CB<A567 A7CC-A7DA/2>1 A7DC<A641 A7F1<A77E A7F2<A78F A7F3<A78D A7F4<A783 A7F5>1 A7F8<A6D1
A7F9<A6A6 AB5C<435 AB5D<26 AB5E<A8F3 AB5F<D AB69<A8DC AB70-ABBF/1<97D0 F900<6CB8 F901<920D
F902<6A38 F903<6C3B F904<8A33 F905<AAD3 F906<A521 F907<596B F908<596C F909<9FB8 F90A<6739
F90B<A384 F90C<9FC4 F90D<9717 F90E<82A5 F90F<798A F910<72D1 F911<7157 F912<701A F913<6884
F914<8F12 F915<8BFA F916<883D F917<8539 F918<74DB F919<67AF F91A<5F29 F91B<AA99 F91C<A5A7
F91D<8E19 F91E<8703 F91F<72F2 F920<5B02 F921<9BD1 F922<8937 F923<7356 F924<6FC0 F925<965C
F926<774E F927<7108 F928<9A5E F929<9212 F92A<8BC0 F92B<862F F92C<685E F92D<A9A7 F92E<A777
F92F<A651 F930<946C F931<8E5E F932<8722 F933<824C F934<7933 F935<732F F936<72DA F937<6B48
F938<6206 F939<5DCA F93A<5B40 F93B<80AF F93C<7FBD F93D<7B9D F93E<7575 F93F<663B F940<5AC1
F941<6E6B F942<A063 F943<9A3F F944<7CE4 F945<78C7 F946<86E4 F947<807D F948<6C86 F949<6252
F94A<A072 F94B<9CE9 F94C<8F39 F94D<8B73 F94E<8A3F F94F<7C20 F950<7B19 F951<6306 F952<A680
F953<78C8 F954<A778 F955<A789 F956<7F3A F957<7B99 F958<7567 F959<62E4 F95A<6DDA F95B<968C
F95C<8F5A F95D<6E5F F95E<AB25 F95F<9D78 F960<994E F961<85DA F962<83F2 F963<A64C F964<8069
F965<A9A6 F966<99BD F967<AB5A F968<8C9C F969<93F1 F96A<7C48 F96B<A5A8 F96C<A10E F96D<826C
F96E<7525 F96F<6EC5 F970<8DB6 F971<69C1 F972<8CEA F973<9675 F974<768F F975<95D5 F976<8411
F977<AAC9 F978<A80F F979<A7B0 F97A<90F9 F97B<7C94 F97C<770D F97D<6EAB F97E<67AF F97F<A68A
F980<A53E F981<A00E F982<9A96 F983<93BE F984<8986 F985<805B F986<63D9 F987<5F1D F988<5AF1
F989<5ABB F98A<A6EF F98B<92C5 F98C<8E15 F98D<6A2B F98E<9B1A F98F<97FF F990<9790 F991<94F7
F992<8A6F F993<884A F994<850B F995<7FCB F996<7BA2 F997<7928 F998<6A72 F999<74AB F99A<6977
F99B<6651 F99C<A785 F99D<A6FA F99E<A4E1 F99F<88D7 F9A0<70DE F9A1<6EF7 F9A2<9AD9 F9A3<99AE
F9A4<9629 F9A5<8DF7 F9A6<7D68 F9A7<8632 F9A8<AAC4 F9A9<A2B0 F9AA<9DC3 F9AB<9BF1 F9AC<9990
F9AD<85FB F9AE<8545 F9AF<7A15 F9B0<796A F9B1<677D F9B2<62BC F9B3<626B F9B4<619C F9B5<AA2A
F9B6<8008 F9B7<6803 F9B8<6300 F9B9<98D8 F9BA<AB34 F9BB<A8E1 F9BC<9DCE F9BD<9D7E F9BE<9425
F9BF<8FBD F9C0<87F2 F9C1<837F F9C2<74C6 F9C3<6947 F9C4<5A37 F9C5<933D F9C6<6398 F9C7<A73E
F9C8<924D F9C9<91D6 F9CA<8C89 F9CB<8B2F F9CC<85C3 F9CD<8474 F9CE<8163 F9CF<7CBF F9D0<6172
F9D1<A864 F9D2<97A4 F9D3<635B F9D4<A9A9 F9D5<9CBC F9D6<8BEC F9D7<6AAD F9D8<9A4D F9D9<9895
F9DA<91C3 F9DB<8654 F9DC<6356 F9DD<A7B4 F9DE<A5CF F9DF<9D7A F9E0<93CD F9E1<9293 F9E2<913A
F9E3<8CFE F9E4<85DE F9E5<8403 F9E6<7A6D F9E7<7118 F9E8<7107 F9E9<681D F9EA<6308 F9EB<A6AC
F9EC<8B32 F9ED<A5D0 F9EE<881E F9EF<8557 F9F0<73F6 F9F1<634E F9F2<5D9B F9F3<5B54 F9F4<925D
F9F5<8C2A F9F6<780E F9F7<7F2C F9F8<7ED8 F9F9<7D67 F9FA<873A F9FB<8962 F9FC<6EA4 F9FD<AB3D
F9FE<76C8 F9FF<A7C5 FA00<A7F9 FA01<9B5B FA02<972F FA03<7D2D FA04<9E7F FA05<8CE7 FA06<9352
FA07<6ACC FA08<71BC FA09<63BC FA0A<707F FA0B<9B38 FA0C<A8CC FA0D<A44D FA10<A1B6 FA12<939E
FA15<A837 FA16<86EC FA17<834D FA18<80DC FA19<80BB FA1A<80B5 FA1B<808C FA1C<62C6 FA1D<7D5F
FA1E<7A61 FA20<740E FA22<6F2A FA25<69ED FA26<6929 FA2A<613B FA2B<612F FA2C<6104 FA2D<5C79
FA2E<6950 FA2F<6378 FA30<AA82 FA31<A94A FA32<A8E5 FA33<A76A FA34<A750 FA35<A6E4 FA36<A499
FA37<A431 FA38<A3D0 FA39<A1F9 FA3A<A192 FA3B<9DD7 FA3C<9DCE FA3D<99A9 FA3E<98D6 FA3F<98B1
FA40<984E FA41<94F2 FA42<9460 FA43<93B2 FA44<91BF FA45<8CCE FA46<8C2C FA47<8B25 FA48<88DA
FA49<881E FA4A<8628 FA4B<81BA FA4C<810E FA4D<8104 FA4E<8106 FA4F<80FF FA50<80FA FA51<80F4
FA52-FA53/1<80C5 FA54<8014 FA55<7FD4 FA56<7E96 FA57<7C63 FA58<7C4F FA59<7C18 FA5A<7AE8 FA5B<7A56
FA5C<786F FA5D<77E4 FA5E<77E5 FA5F<7608 FA60<7150 FA61<70CB FA62<6F61 FA63<6F2A FA64<6D91
FA65<6D5D FA66<6AB0 FA67<6A2F FA68<6385 FA69<626A FA6A<622F FA6B<99F6 FA6C>14882 FA6D<7855
FA70<AC4A FA71<A8BC FA72<A90A FA73<AAF3 FA74<A92F FA75<A8F5 FA76<A7AF FA77<A77D FA78<A4DB
FA79<A524 FA7A<A4E1 FA7B<A499 FA7C<A222 FA7D<A1CA FA7E<A13A FA7F<A12B FA80<A01E FA81<9F59
FA82<9BB0 FA83<9BAA FA84<9B1B FA85<9AD8 FA86<99AE FA87<9939 FA88<9980 FA89<98FB FA8A<992A
FA8B<9899 FA8C<9858 FA8D<96C9 FA8E<9672 FA8F<963D FA90<953A FA91<941D FA92<937B FA93<9378
FA94<933E FA95<8F1C FA96<8EDC FA97<8D56 FA98<8BBD FA99<8BCE FA9A<8B78 FA9B<8A7D FA9C<892E
FA9D<82F6 FA9E<8869 FA9F<87F0 FAA0<8776 FAA1<8630 FAA2<859C FAA3<8568 FAA4<8487 FAA5<8486
FAA6<83DC FAA7<83CC FAA8<83B4 FAA9<835F FAAA<836A FAAB<81DF FAAC<7FFB FAAD<7EED FAAE<7E33
FAAF<7D54 FAB0<7CBC FAB1<7B73 FAB2<7AAD FAB3<7761 FAB4<76C5 FAB5<733C FAB6<7175 FAB7<7131
FAB8<7122 FAB9<6FFA FABA<6FC2 FABB<6FF0 FABC<6FBB FABD<6FBF FABE<6FD1 FABF<6F86 FAC0<6F36
FAC1<6DB9 FAC2<6B8A FAC3<6A51 FAC4<692B FAC5<684F FAC6<644A FAC7<63E4 FAC8<6372 FAC9<62EE
FACA<62CB FACB<62C0 FACC<6291 FACD<5FBB FACE<5B32 FACF>12D7B FAD0>12D74 FAD1>13904 FAD2<BF35
FAD3<BABB FAD4<BA9B FAD5>15774 FAD6>161FA FAD7>183FC FAD8<5B95 FAD9<5B4B FB20<F53E FB21<F551
FB22-FB23/1<F54F FB24-FB26/1<F549 FB27<F53F FB28<F53E FB29<FAFE FB50<F4DF FB51<F4E0 FB52<F4D7
FB53<F4D8 FB54<F4D9 FB55<F4DA FB56<F4D8 FB57<F4D9 FB58<F4DA FB59<F4DB FB5A<F4DA FB5B<F4DB
FB5C<F4DC FB5D<F4DD FB5E<F4E4 FB5F<F4E5 FB60<F4E6 FB61<F4E7 FB62<F4E3 FB63<F4E4 FB64<F4E5
FB65<F4E6 FB66<F4ED FB67<F4EE FB68<F4EF FB69<F4F0 FB6A<F4C6 FB6B<F4C7 FB6C<F4C8 FB6D<F4C9
FB6E<F4C8 FB6F<F4C9 FB70<F4CA FB71<F4CB FB72<F4EE FB73<F4EF FB74<F4F0 FB75<F4F1 FB76<F4F3
FB77<F4F4 FB78<F4F5 FB79<F4F6 FB7A<F4F4 FB7B<F4F5 FB7C<F4F6 FB7D-FB7E/1<F4F7 FB7F<F4F8 FB80<F4F9
FB81<F4FA FB82<F4F5 FB83<F4F6 FB84<F4F8 FB85<F4F9 FB86<F4F8 FB87<F4F9 FB88<F500 FB89<F501
FB8A<F4F2 FB8B<F4F3 FB8C<F4FB FB8D<F4FC FB8E<F4E5 FB8F<F4E6 FB90<F4E7 FB91<F4E8 FB92<F4E3
FB93<F4E4 FB94<F4E5 FB95<F4E6 FB96<F4E3 FB97<F4E4 FB98<F4E5 FB99<F4E6 FB9A<F4E9 FB9B<F4EA
FB9C<F4EB FB9D<F4EC FB9E<F4E4 FB9F-FBA0/1<F4E5 FBA1<F4E6 FBA2<F4E7 FBA3<F4E8 FBA4<F4E4
FBA5-FBA6/1<F4E5 FBA7<F4E6 FBA8<F4E7 FBA9<F4E8 FBAA<F4EC FBAB<F4ED FBAC<F4EE FBAD<F4EF FBAE<F4DC
FBAF-FBB0/1<F4DD FBB1<F4DE FBD3<F526 FBD4<F527 FBD5<F528 FBD6<F529 FBD7<F510 FBD8<F511 FBD9<F513
FBDA<F514 FBDB<F513 FBDC<F514 FBDE<F513 FBDF<F514 FBE0<F51B FBE1<F51C FBE2<F519 FBE3<F51A
FBE4<F514 FBE5<F515 FBE6<F516 FBE7<F517 FBE8<F59F FBE9<F5A0 FBFC<F530 FBFD<F531 FBFE<F532
FBFF<F533 FE10<FDE4 FE11<CE10 FE13-FE14/1<FDD9 FE15<FDF4 FE16<FDD7 FE17-FE18/1<CE01 FE31<DE1D
FE32<DE1F FE33<FDD4 FE34<FDD5 FE35-FE36/1<FE0D FE37<FDBC FE38<FDBB FE39-FE3A/1<CE25
FE3B-FE3C/1<CE2B FE3D-FE3E/1<CE33 FE3F-FE40/1<CE37 FE41-FE44/1<CE35 FE47<FDEC FE48<FDEB
FE4D<FDEE FE4E<FDEF FE4F<FDF0 FE50<FE24 FE51<CE50 FE54<FE19 FE55<FE1B FE56<FE17 FE57<FE36
FE58<DE44 FE59-FE5A/1<FE31 FE5B<FDE0 FE5C<FDDF FE5D-FE5E/1<CE49 FE5F<FE3C FE60<FE3A
FE61-FE62/1<FE37 FE63<FE36 FE64<FE28 FE65<FE27 FE66<FE29 FE68<FE0C FE69-FE6A/1<FE45 FE6B<FE2B
FE80-FE81/1<F85F FE82-FE83/1<F860 FE84-FE85/1<F861 FE86-FE87/1<F862 FE88-FE89/1<F863 FE8A<F864
FE8B<F865 FE8C-FE8D/1<F866 FE8E-FE8F/1<F867 FE90<F868 FE91<F869 FE92-FE93/1<F86A
FE94-FE95/1<F86B FE96<F86C FE97<F86D FE98-FE99/1<F86E FE9A<F86F FE9B<F870 FE9C-FE9D/1<F871
FE9E<F872 FE9F<F873 FEA0-FEA1/1<F874 FEA2<F875 FEA3<F876 FEA4-FEA5/1<F877 FEA6<F878 FEA7<F879
FEA8-FEA9/1<F87A FEAA-FEAB/1<F87B FEAC-FEAD/1<F87C FEAE-FEAF/1<F87D FEB0-FEB1/1<F87E FEB2<F87F
FEB3<F880 FEB4-FEB5/1<F881 FEB6<F882 FEB7<F883 FEB8-FEB9/1<F884 FEBA<F885 FEBB<F886
FEBC-FEBD/1<F887 FEBE<F888 FEBF<F889 FEC0-FEC1/1<F88A FEC2<F88B FEC3<F88C FEC4-FEC5/1<F88D
FEC6<F88E FEC7<F88F FEC8-FEC9/1<F890 FECA<F891 FECB<F892 FECC-FECD/1<F893 FECE<F894 FECF<F895
FED0<F896 FED1<F890 FED2<F891 FED3<F892 FED4-FED5/1<F893 FED6<F894 FED7<F895 FED8-FED9/1<F896
FEDA<F897 FEDB<F898 FEDC-FEDD/1<F899 FEDE<F89A FEDF<F89B FEE0-FEE1/1<F89C FEE2<F89D FEE3<F89E
FEE4-FEE5/1<F89F FEE6<F8A0 FEE7<F8A1 FEE8-FEE9/1<F8A2 FEEA<F8A3 FEEB<F8A4 FEEC-FEED/1<F8A5
FEEE-FEEF/1<F8A6 FEF0-FEF1/1<F8A7 FEF2<F8A8 FEF3<F8A9 FEF4<F8AA FF01-FF20/1<FEE0
FF21-FF3A/1<FEC0 FF3B-FF5E/1<FEE0 FF5F-FF60/1<D5DA FF61<FF33 FF62-FF63/1<CF56 FF64<CF63
FF65<CE6A FF66<CE74 FF67<CEC6 FF68<CEC5 FF69<CEC4 FF6A<CEC3 FF6B<CEC2 FF6C<CE89 FF6D<CE88
FF6E<CE87 FF6F<CEAC FF70<CE74 FF71<CECF FF72<CECE FF73<CECD FF74<CECC FF75-FF76/1<CECB FF77<CECA
FF78<CEC9 FF79<CEC8 FF7A<CEC7 FF7B<CEC6 FF7C<CEC5 FF7D<CEC4 FF7E<CEC3 FF7F<CEC2 FF80<CEC1
FF81<CEC0 FF82<CEBE FF83<CEBD FF84<CEBC FF85-FF8A/1<CEBB FF8B<CEB9 FF8C<CEB7 FF8D<CEB5 FF8E<CEB3
FF8F-FF93/1<CEB1 FF94<CEB0 FF95<CEAF FF96-FF9B/1<CEAE FF9C<CEAD FF9D<CEAA FF9E-FF9F/1<CF05
FFA1-FFA2/1<EEA1 FFA3<EDF9 FFA4<EEA2 FFA5-FFA6/1<EDF9 FFA7-FFA9/1<EEA4 FFAA-FFAF/1<EDFA
FFB0<EE96 FFB1-FFB3/1<EEAB FFB4<EE93 FFB5-FFBE/1<EEAC FFC2-FFC7/1<EE61 FFCA-FFCF/1<EE63
FFD2-FFD7/1<EE65 FFDA-FFDC/1<EE67 FFE0-FFE1/1<FF3E FFE2<FF36 FFE4<FF3E FFE5<FF40 FFE6<DF3D
FFE8<DAE6 FFE9-FFEC/1<DE59 FFED<DA4D FFEE<DA23 10400-10427/1>28 104B0-104D3/1>28
10570-1057A/1>27 1057C-1058A/1>27 1058C-10592/1>27 10594-10595/1>27 10781-10782/1<104B1
10783<1069D 10784<104EB 10785<10532 10787<104E4 10788<5C22 10789<104E4 1078A<104E6
1078B-1078C/1<10535 1078D<E9FC 1078E<10536 1078F<10531 10790<104E7 10791<1052D 10792<10530
10793<10533 10794<104F9 10795<1066E 10796<104FA 10797<10530 10798<10514 10799-1079A/1<104EF
1079B<1052F 1079C>D768 1079D<600F 1079E<10530 1079F>D766 107A0<10512 107A1>D765 107A2<106AA
107A3-107A4/1<1052D 107A5<10734 107A6<1052C 107A7>D761 107A8-107A9/1<1052B 107AA<1052A
107AB<10503 107AC<10506 107AD<5C46 107AE<10507 107AF<10527 107B0<DB3F 107B2<10523
107B3-107B4/1<10512 107B5<1051D 107B6-107B8/1<105F6 107B9>D751 107BA>D764 10C80-10CB2/1>40
10D50-10D65/1>20 118A0-118BF/1>20 16E40-16E5F/1>20 16EA0-16EB8/1>1B 1CCD6-1CCEF/1<1CC75
1CCF0-1CCF9/1<1CCC0 1D400-1D419/1<1D39F 1D41A-1D433/1<1D3B9 1D434-1D44D/1<1D3D3
1D44E-1D454/1<1D3ED 1D456-1D467/1<1D3ED 1D468-1D481/1<1D407 1D482-1D49B/1<1D421
1D49C-1D49E/2<1D43B 1D49F<1D43B 1D4A2<1D43B 1D4A5-1D4A6/1<1D43B 1D4A9-1D4AC/1<1D43B
1D4AE-1D4B5/1<1D43B 1D4B6-1D4B9/1<1D455 1D4BB-1D4BD/2<1D455 1D4BE-1D4C3/1<1D455
1D4C5-1D4CF/1<1D455 1D4D0-1D4E9/1<1D46F 1D4EA-1D503/1<1D489 1D504-1D505/1<1D4A3
1D507-1D50A/1<1D4A3 1D50D-1D514/1<1D4A3 1D516-1D51C/1<1D4A3 1D51E-1D537/1<1D4BD
1D538-1D539/1<1D4D7 1D53B-1D53E/1<1D4D7 1D540-1D544/1<1D4D7 1D546<1D4D7 1D54A-1D550/1<1D4D7
1D552-1D56B/1<1D4F1 1D56C-1D585/1<1D50B 1D586-1D59F/1<1D525 1D5A0-1D5B9/1<1D53F
1D5BA-1D5D3/1<1D559 1D5D4-1D5ED/1<1D573 1D5EE-1D607/1<1D58D 1D608-1D621/1<1D5A7
1D622-1D63B/1<1D5C1 1D63C-1D655/1<1D5DB 1D656-1D66F/1<1D5F5 1D670-1D689/1<1D60F
1D68A-1D6A3/1<1D629 1D6A4<1D573 1D6A5<1D46E 1D6A8-1D6B8/1<1D2F7 1D6B9<1D301 1D6BA-1D6C0/1<1D2F7
1D6C1<1B4BA 1D6C2-1D6D2/1<1D311 1D6D3<1D310 1D6D4-1D6DA/1<1D311 1D6DB<1B4D9 1D6DC<1D327
1D6DD<1D325 1D6DE<1D324 1D6DF<1D319 1D6E0<1D31F 1D6E1<1D321 1D6E2-1D6F2/1<1D331 1D6F3<1D33B
1D6F4-1D6FA/1<1D331 1D6FB<1B4F4 1D6FC-1D70C/1<1D34B 1D70D<1D34A 1D70E-1D714/1<1D34B 1D715<1B513
1D716<1D361 1D717<1D35F 1D718<1D35E 1D719<1D353 1D71A<1D359 1D71B<1D35B 1D71C-1D72C/1<1D36B
1D72D<1D375 1D72E-1D734/1<1D36B 1D735<1B52E 1D736-1D746/1<1D385 1D747<1D384 1D748-1D74E/1<1D385
1D74F<1B54D 1D750<1D39B 1D751<1D399 1D752<1D398 1D753<1D38D 1D754<1D393 1D755<1D395
1D756-1D766/1<1D3A5 1D767<1D3AF 1D768-1D76E/1<1D3A5 1D76F<1B568 1D770-1D780/1<1D3BF 1D781<1D3BE
1D782-1D788/1<1D3BF 1D789<1B587 1D78A<1D3D5 1D78B<1D3D3 1D78C<1D3D2 1D78D<1D3C7 1D78E<1D3CD
1D78F<1D3CF 1D790-1D7A0/1<1D3DF 1D7A1<1D3E9 1D7A2-1D7A8/1<1D3DF 1D7A9<1B5A2 1D7AA-1D7BA/1<1D3F9
1D7BB<1D3F8 1D7BC-1D7C2/1<1D3F9 1D7C3<1B5C1 1D7C4<1D40F 1D7C5<1D40D 1D7C6<1D40C 1D7C7<1D401
1D7C8<1D407 1D7C9<1D409 1D7CA<1D3ED 1D7CB<1D3EE 1D7CE-1D7D7/1<1D79E 1D7D8-1D7E1/1<1D7A8
1D7E2-1D7EB/1<1D7B2 1D7EC-1D7F5/1<1D7BC 1D7F6-1D7FF/1<1D7C6 1E030-1E038/1<1DC00
1E039-1E03B/1<1DBFF 1E03C-1E046/1<1DBFE 1E047<1DBFC 1E048-1E049/1<1DBFB 1E04A<139C1 1E04B<1DB72
1E04C<1DBF6 1E04D<1DBF5 1E04E<1DB65 1E04F<1DBA0 1E050<1DB81 1E051-1E059/1<1DC21
1E05A-1E05B/1<1DC20 1E05C-1E05D/1<1DC1E 1E05E<1DC1D 1E05F-1E064/1<1DC1C 1E065-1E066/1<1DC1B
1E067<1DBD6 1E068<1DC12 1E069<1DC14 1E06A<1DC0B 1E06B<1DBC0 1E06C<13A1B 1E06D<1DBBC
1E900-1E921/1>22 1EE00-1EE01/1<1E7D9 1EE02<1E7D6 1EE03<1E7D4 1EE05<1E7BD 1EE06<1E7D4 1EE07<1E7DA
1EE08<1E7D1 1EE09<1E7BF 1EE0A-1EE0D/1<1E7C7 1EE0E<1E7DB 1EE0F<1E7D6 1EE10<1E7CF 1EE11<1E7DC
1EE12<1E7D0 1EE13<1E7E2 1EE14<1E7E0 1EE15-1EE16/1<1E7EB 1EE17<1E7E9 1EE18<1E7E8 1EE19<1E7E3
1EE1A<1E7E2 1EE1B<1E7E1 1EE1C<1E7AE 1EE1D<1E763 1EE1E<1E77D 1EE1F<1E7B0 1EE21<1E7F9 1EE22<1E7F6
1EE24<1E7DD 1EE27<1E7FA 1EE29<1E7DF 1EE2A-1EE2D/1<1E7E7 1EE2E<1E7FB 1EE2F<1E7F6 1EE30<1E7EF
1EE31<1E7FC 1EE32<1E7F0 1EE34<1E800 1EE35-1EE36/1<1E80B 1EE37<1E809 1EE39<1E803 1EE3B<1E801
1EE42<1E816 1EE47<1E81A 1EE49<1E7FF 1EE4B-1EE4D/2<1E807 1EE4E<1E81B 1EE4F<1E816 1EE51<1E81C
1EE52<1E810 1EE54<1E820 1EE57<1E829 1EE59<1E823 1EE5B<1E821 1EE5D<1E7A3 1EE5F<1E7F0 1EE61<1E839
1EE62<1E836 1EE64<1E81D 1EE67<1E83A 1EE68<1E831 1EE69<1E81F 1EE6A-1EE6C/2<1E827 1EE6D<1E827
1EE6E<1E83B 1EE6F<1E836 1EE70<1E82F 1EE71<1E83C 1EE72<1E830 1EE74<1E840 1EE75-1EE76/1<1E84B
1EE77<1E849 1EE79<1E843 1EE7A<1E842 1EE7B<1E841 1EE7C<1E80E 1EE7E<1E7DD 1EE80-1EE81/1<1E859
1EE82<1E856 1EE83<1E854 1EE84-1EE85/1<1E83D 1EE86<1E854 1EE87<1E85A 1EE88<1E851 1EE89<1E83F
1EE8B-1EE8D/1<1E847 1EE8E<1E85B 1EE8F<1E856 1EE90<1E84F 1EE91<1E85C 1EE92<1E850 1EE93<1E862
1EE94<1E860 1EE95-1EE96/1<1E86B 1EE97<1E869 1EE98<1E868 1EE99<1E863 1EE9A<1E862 1EE9B<1E861
1EEA1<1E879 1EEA2<1E876 1EEA3<1E874 1EEA5<1E85D 1EEA6<1E874 1EEA7<1E87A 1EEA8<1E871 1EEA9<1E85F
1EEAB-1EEAD/1<1E867 1EEAE<1E87B 1EEAF<1E876 1EEB0<1E86F 1EEB1<1E87C 1EEB2<1E870 1EEB3<1E882
1EEB4<1E880 1EEB5-1EEB6/1<1E88B 1EEB7<1E889 1EEB8<1E888 1EEB9<1E883 1EEBA<1E882 1EEBB<1E881
1F12B<1F0C8 1F12C<1F0BA 1F130-1F149/1<1F0CF 1F202<1C14D 1F210<18FC5 1F211<196BA 1F212<19E46
1F213<1C14C 1F214<1A388 1F215<198FB 1F216<16833 1F217<198EE 1F218<1A374 1F219<18BF9 1F21A<180F9
1F21B<18C82 1F21C<19FCF 1F21D<19291 1F21E<1A091 1F21F<18C6F 1F220<1A003 1F221<174DF 1F222<17D03
1F223<1657A 1F224<19934 1F225<19DEC 1F226<18312 1F227<18F92 1F228<18ED3 1F229<1A429 1F22A<1A421
1F22B<161E1 1F22C<19446 1F22D<1A400 1F22E<19E3B 1F22F<18F28 1F230<164C0 1F231<18FDE 1F232<178B1
1F233<177B9 1F234<19E2C 1F235<183B5 1F236<18B2D 1F237<18B2F 1F238<17D05 1F239<19FC7 1F23A<19C84
1F23B<160EE 1F250<192B9 1F251<19E62 1FBF0-1FBF9/1<1FBC0 2F800<2A9C3 2F801<2A9C9 2F802<2A9C1
2F803<F6E1 2F804<2A8A4 2F805<2A857 2F806<2A84B 2F807<2A805 2F808<2A78E 2F809<2A770 2F80A<2A723
2F80B<2A73C 2F80C<2C36E 2F80D<F1D3 2F80E<2A6C1 2F80F<2A6BB 2F810<2A6AC 2F811<2A69A 2F812<F2F6
2F813<2C35A 2F814<2A6AD 2F815<2A688 2F816<F2CB 2F817<2A680 2F818<2A674 2F819<2A94D 2F81A<2A66E
2F81B<2A666 2F81C<663D 2F81D<2A628 2F81E<2A61B 2F81F<2C340 2F820<2A5E5 2F821<2A5DB 2F822<2A5B0
2F823<2A5AC 2F824<2C30F 2F825<2A55E 2F826<2A55D 2F827<2A543 2F828<2A52E 2F829-2F82A/1<2A524
2F82B<2A514 2F82C<2A4E3 2F82D<2A4DC 2F82E<2A4D4 2F82F<2A4BC 2F830<2A4B3 2F831<2A4B2 2F832<2A4B3
2F833<2A4B4 2F834<EE08 2F835<287C5 2F836<2A46C 2F837<2A458 2F838<ECD5 2F839<2A44E 2F83A<2A449
2F83B<2A435 2F83C<2A39E 2F83D<2A405 2F83E<2A3F6 2F83F<2A3D7 2F840<2A39E 2F841<2A34B 2F842<2A332
2F843<2A2F0 2F844<2A2E1 2F845<2A2C1 2F846<2A2C2 2F847<2A2AE 2F848<2A29D 2F849<2A296 2F84A<2A288
2F84B<2A135 2F84C<2A246 2F84D<2A136 2F84E<2A1FD 2F84F<2A1DB 2F850<2A649 2F851<29F63 2F852<2A084
2F853<2A05F 2F854<2A047 2F855<2A0CA 2F856<2A024 2F857<2A026 2F858<29FAC 2F859<E375 2F85A<29F68
2F85B<29F64 2F85C<29F56 2F85D<29F43 2F85E<29F3C 2F85F<29EFD 2F860<E1B8 2F861<E177 2F862<29E76
2F863<29E48 2F864<29E3D 2F865<29E8D 2F866<29E00 2F867<2C179 2F868<2C16C 2F869<29D61 2F86A<29D2C
2F86B<29D2D 2F86C<DEA4 2F86D<29CAA 2F86E<29C96 2F86F<29C88 2F870<29C7D 2F871<DD59 2F872<29C73
2F873<29C6D 2F874<29921 2F875<29C53 2F876<2C0F5 2F877<29C17 2F878<29C0A 2F879<29BB9 2F87A<29BED
2F87B<DA97 2F87C<29B39 2F87D<DA97 2F87E<29B10 2F87F<29B14 2F880<29B04 2F881-2F882/1<29AA0
2F883<2C054 2F884<29A87 2F885<29A5D 2F886<29A49 2F887<29A1E 2F888<2C026 2F889<D706 2F88A<2C00E
2F88B<299DB 2F88C<299D9 2F88D<299D7 2F88E<299C4 2F88F<54FD 2F890<29992 2F891<D560 2F892<D561
2F893<27692 2F894<29972 2F895<29973 2F896<2BFCF 2F897<C5DF 2F898<96BE 2F899<29937 2F89A<2992F
2F89B<2BFB8 2F89C<29902 2F89D<298D0 2F89E<298C7 2F89F<298A6 2F8A0<2981F 2F8A1<2BF67 2F8A2<2BF86
2F8A3<2980F 2F8A4<D1D0 2F8A5<297DE 2F8A6<2975E 2F8A7<2975B 2F8A8<2975A 2F8A9<2975D 2F8AA<29730
2F8AB<2971D 2F8AC<296FA 2F8AD<29709 2F8AE<296FF 2F8AF<296D1 2F8B0<296BE 2F8B1<296BB 2F8B2<296A2
2F8B3<29698 2F8B4<29657 2F8B5<29604 2F8B6<295E2 2F8B7<29567 2F8B8<CDAC 2F8B9<2957C 2F8BA<295BE
2F8BB<29553 2F8BC<29539 2F8BD<294D9 2F8BE<CCCD 2F8BF<2949D 2F8C0<294FB 2F8C1<29518 2F8C2<2BE94
2F8C3<2945A 2F8C4<29446 2F8C5<29428 2F8C6<2944F 2F8C7<2BE5B 2F8C8<29379 2F8C9<2935D 2F8CA<C8C0
2F8CB<292E8 2F8CC<291D4 2F8CD<29284 2F8CE<2BDB5 2F8CF<2923E 2F8D0<2BDC8 2F8D1<2BDED 2F8D2<2A740
2F8D3<2A73E 2F8D4<291D4 2F8D5<29239 2F8D6<27829 2F8D7<2B4FE 2F8D8<291C1 2F8D9<291BE 2F8DA<291B9
2F8DB<2917D 2F8DC<29189 2F8DD<C51A 2F8DE<2BD95 2F8DF<290E5 2F8E0<2915B 2F8E1<2908F 2F8E2<2905D
2F8E3<C476 2F8E4<29056 2F8E5<290C6 2F8E6<28FD2 2F8E7<2BD4A 2F8E8<28FA6 2F8E9<28F46 2F8EA<28F00
2F8EB<28E43 2F8EC<C249 2F8ED<28E12 2F8EE<2BCD6 2F8EF<28DCE 2F8F0<C049 2F8F1<28D9D 2F8F2<2BCA4
2F8F3<28D81 2F8F4<28D55 2F8F5-2F8F6/1<28D3B 2F8F7<BE6A 2F8F8<DBED 2F8F9<BDFF 2F8FA<28CAC
2F8FB<BC3F 2F8FC<28C3D 2F8FD<28C30 2F8FE<28C97 2F8FF<28BE9 2F900<28BC2 2F901<28B8A 2F902<28BC1
2F903<28B9A 2F904<28B8C 2F905<28B80 2F906<BBE8 2F907<28BD3 2F908<28AD9 2F909<28A9B 2F90A<2BBD7
2F90B<28A40 2F90C<28A45 2F90D<BA3C 2F90E<28B15 2F90F<289A1 2F910<B9B2 2F911<B983 2F912<2894C
2F913<288DA 2F914<288F6 2F915<288FA 2F916<2BB80 2F917<288CD 2F918<2889B 2F919<288A2 2F91A<2886D
2F91B<F3F6 2F91C<287D7 2F91D<B6BA 2F91E<28782 2F91F<B574 2F920<286F8 2F921<286EC 2F922<286D2
2F923<B31B 2F924<286A4 2F925<28690 2F926<B1F1 2F927<B113 2F928<285AE 2F929<2859E 2F92A<2BA7E
2F92B<28586 2F92C<2BA74 2F92D<2BA75 2F92E<284E7 2F92F<284D3 2F930<284BF 2F931<284AC 2F932<28468
2F933<2BA18 2F934<28410 2F935<ACFF 2F936<283F8 2F937<ACA5 2F938<283C8 2F939<D79A 2F93A<2832A
2F93B<A99A 2F93C<A984 2F93D<A8F9 2F93E<2B942 2F93F<2B937 2F940<2824C 2F941<A84E 2F942<A850
2F943<A82A 2F944<A811 2F945-2F946/1<28227 2F947<28228 2F948<281FE 2F949<2B910 2F94A<281BF
2F94B<2B905 2F94C<2B8B6 2F94D<A530 2F94E<28100 2F94F<280C3 2F950<28084 2F951<2B86E 2F952<A32C
2F953<27FFD 2F954<A2BA 2F955<A290 2F956<27FC7 2F957<27F6C 2F958<2B829 2F959<27F19 2F95A<27F10
2F95B<27F0C 2F95C<9FE0 2F95D<9EB6 2F95E<9EB7 2F95F<27E71 2F960<2B75E 2F961<9DB6 2F962<27D9C
2F963<27D9A 2F964<2B73D 2F965<9CE5 2F966<27C94 2F967<2B6C7 2F968<27C80 2F969<27C86 2F96A<27C6A
2F96B<99E5 2F96C<27C09 2F96D<2B66C 2F96E<27BA7 2F96F<27B6D 2F970<27B2B 2F971<2B63D 2F972<974A
2F973<972C 2F974<2B61B 2F975<969C 2F976<279FC 2F977<9639 2F978<279E3 2F979<2797F 2F97A<27975
2F97B<94A1 2F97C<9459 2F97D<2791D 2F97E<93D6 2F97F<2790F 2F980<C621 2F981<2B5AC 2F982<278D0
2F983<27880 2F984<2B579 2F985<27847 2F986<29ED1 2F987<91E0 2F988<91D3 2F989<C5F6 2F98A<C5EE
2F98B<2778A 2F98C<27788 2F98D<269EF 2F98E<2B523 2F98F<276FE 2F990<27705 2F991<276F4 2F992<2A6DF
2F993<276E2 2F994<276E1 2F995<276D8 2F996<276B0 2F997<8E5B 2F998<276B3 2F999<2767C 2F99A<27637
2F99B<275EE 2F99C<27679 2F99D<275E0 2F99E<275B7 2F99F<27548 2F9A0<2764D 2F9A1<275D7 2F9A2<275D6
2F9A3<275C7 2F9A4<8D6E 2F9A5<8C3A 2F9A6<8CD1 2F9A7<2B47C 2F9A8<274B7 2F9A9<274B6 2F9AA<27494
2F9AB<85E1 2F9AC<27448 2F9AD<8A81 2F9AE<2B451 2F9AF<2B44E 2F9B0<89FF 2F9B1<88DF 2F9B2<2B447
2F9B3<27363 2F9B4<27358 2F9B5<2734E 2F9B6<2734D 2F9B7<2730E 2F9B8<27330 2F9B9<272AB 2F9BA<272D8
2F9BB<27242 2F9BC<27294 2F9BD<27252 2F9BE<27238 2F9BF<2B3E8 2F9C0<271DF 2F9C1<271C0 2F9C2<2B3C9
2F9C3<27163 2F9C4<27161 2F9C5<835E 2F9C6<270EF 2F9C7<270E9 2F9C8<2B393 2F9C9<270CF 2F9CA<2C50F
2F9CB<811D 2F9CC<8066 2F9CD<2B30F 2F9CE<2B307 2F9CF<26F2F 2F9D0<26EE3 2F9D1<26E47 2F9D2<26D7D
2F9D3<7D2B 2F9D4<26D29 2F9D5<26D14 2F9D6<26CBB 2F9D7<26C60 2F9D8<7AA9 2F9D9<F1D5 2F9DA<26C0F
2F9DB<26C1F 2F9DC<26BEC 2F9DD<F0FF 2F9DE<26B0A 2F9DF<26AA7 2F9E0<740E 2F9E1<73F4 2F9E2<2694E
2F9E3<268F2 2F9E4<268D3 2F9E5<72B7 2F9E6<268CB 2F9E7<267AF 2F9E8-2F9E9/1<26711 2F9EA<2676E
2F9EB<265F2 2F9EC<265D7 2F9ED<6DF3 2F9EE<26463 2F9EF<2B05A 2F9F0<26439 2F9F1<6C7A 2F9F2<2B00C
2F9F3<26330 2F9F4<29C42 2F9F5<262D2 2F9F6<68B1 2F9F7<67DD 2F9F8<2AF8A 2F9F9<2AF83 2F9FA<2621A
2F9FB<65F1 2F9FC<2AF4A 2F9FD<6567 2F9FE<261F3 2F9FF<261F4 2FA00<261D7 2FA01<644B 2FA02<26120
2FA03<2AED0 2FA04<260DB 2FA05<2605E 2FA06<26044 2FA07<26009 2FA08<2AE3A 2FA09<5ED9 2FA0A<25EF8
2FA0B<25DCB 2FA0C<25D0F 2FA0D<2AD3F 2FA0E<2AD21 2FA0F<25CA8 2FA10<5942 2FA11<2AD19 2FA12<590D
2FA13<5805 2FA14<5783 2FA15<25B5A 2FA16<2ACC0 2FA17<25B1E 2FA18<25B1A 2FA19<25B14 2FA1A<25B0B
2FA1B<25B05 2FA1C<25AE1 2FA1D<541D"

def replacedTexts : String :=
  "A8=20.308 AF=20.304 B4=20.301 B8=20.327 BC=31.2044.34 BD=31.2044.32 BE=33.2044.34 130=69.307
132=69.6A 133=69.6A 13F=6C.B7 140=6C.B7 149=2BC.6E 1C4=64.17E 1C5=64.17E 1C6=64.17E 1C7=6C.6A
1C8=6C.6A 1C9=6C.6A 1CA=6E.6A 1CB=6E.6A 1CC=6E.6A 1F1=64.7A 1F2=64.7A 1F3=64.7A 2D8=20.306
2D9=20.307 2DA=20.30A 2DB=20.328 2DC=20.303 2DD=20.30B 344=308.301 37A=20.3B9 384=20.301
385=20.308.301 587=565.582 675=627.674 676=648.674 677=6C7.674 678=64A.674 958=915.93C
959=916.93C 95A=917.93C 95B=91C.93C 95C=921.93C 95D=922.93C 95E=92B.93C 95F=92F.93C 9DC=9A1.9BC
9DD=9A2.9BC 9DF=9AF.9BC A33=A32.A3C A36=A38.A3C A59=A16.A3C A5A=A17.A3C A5B=A1C.A3C A5E=A2B.A3C
B5C=B21.B3C B5D=B22.B3C E33=E4D.E32 EB3=ECD.EB2 EDC=EAB.E99 EDD=EAB.EA1 F43=F42.FB7 F4D=F4C.FB7
F52=F51.FB7 F57=F56.FB7 F5C=F5B.FB7 F69=F40.FB5 F73=F71.F72 F75=F71.F74 F76=FB2.F80
F77=FB2.F71.F80 F78=FB3.F80 F79=FB3.F71.F80 F81=F71.F80 F93=F92.FB7 F9D=F9C.FB7 FA2=FA1.FB7
FA7=FA6.FB7 FAC=FAB.FB7 FB9=F90.FB5 1E9A=61.2BE 1F80=1F00.3B9 1F81=1F01.3B9 1F82=1F02.3B9
1F83=1F03.3B9 1F84=1F04.3B9 1F85=1F05.3B9 1F86=1F06.3B9 1F87=1F07.3B9 1F88=1F00.3B9
1F89=1F01.3B9 1F8A=1F02.3B9 1F8B=1F03.3B9 1F8C=1F04.3B9 1F8D=1F05.3B9 1F8E=1F06.3B9
1F8F=1F07.3B9 1F90=1F20.3B9 1F91=1F21.3B9 1F92=1F22.3B9 1F93=1F23.3B9 1F94=1F24.3B9
1F95=1F25.3B9 1F96=1F26.3B9 1F97=1F27.3B9 1F98=1F20.3B9 1F99=1F21.3B9 1F9A=1F22.3B9
1F9B=1F23.3B9 1F9C=1F24.3B9 1F9D=1F25.3B9 1F9E=1F26.3B9 1F9F=1F27.3B9 1FA0=1F60.3B9
1FA1=1F61.3B9 1FA2=1F62.3B9 1FA3=1F63.3B9 1FA4=1F64.3B9 1FA5=1F65.3B9 1FA6=1F66.3B9
1FA7=1F67.3B9 1FA8=1F60.3B9 1FA9=1F61.3B9 1FAA=1F62.3B9 1FAB=1F63.3B9 1FAC=1F64.3B9
1FAD=1F65.3B9 1FAE=1F66.3B9 1FAF=1F67.3B9 1FB2=1F70.3B9 1FB3=3B1.3B9 1FB4=3AC.3B9 1FB7=1FB6.3B9
1FBC=3B1.3B9 1FBD=20.313 1FBF=20.313 1FC0=20.342 1FC1=20.308.342 1FC2=1F74.3B9 1FC3=3B7.3B9
1FC4=3AE.3B9 1FC7=1FC6.3B9 1FCC=3B7.3B9 1FCD=20.313.300 1FCE=20.313.301 1FCF=20.313.342
1FDD=20.314.300 1FDE=20.314.301 1FDF=20.314.342 1FED=20.308.300 1FEE=20.308.301 1FF2=1F7C.3B9
1FF3=3C9.3B9 1FF4=3CE.3B9 1FF7=1FF6.3B9 1FFC=3C9.3B9 1FFD=20.301 1FFE=20.314 2017=20.333
2033=2032.2032 2034=2032.2032.2032 2036=2035.2035 2037=2035.2035.2035 203C=21.21 203E=20.305
2047=3F.3F 2048=3F.21 2049=21.3F 2057=2032.2032.2032.2032 20A8=72.73 2100=61.2F.63 2101=61.2F.73
2103=B0.63 2105=63.2F.6F 2106=63.2F.75 2109=B0.66 2116=6E.6F 2120=73.6D 2121=74.65.6C 2122=74.6D
213B=66.61.78 2150=31.2044.37 2151=31.2044.39 2152=31.2044.31.30 2153=31.2044.33 2154=32.2044.33
2155=31.2044.35 2156=32.2044.35 2157=33.2044.35 2158=34.2044.35 2159=31.2044.36 215A=35.2044.36
215B=31.2044.38 215C=33.2044.38 215D=35.2044.38 215E=37.2044.38 215F=31.2044 2161=69.69
2162=69.69.69 2163=69.76 2165=76.69 2166=76.69.69 2167=76.69.69.69 2168=69.78 216A=78.69
216B=78.69.69 2171=69.69 2172=69.69.69 2173=69.76 2175=76.69 2176=76.69.69 2177=76.69.69.69
2178=69.78 217A=78.69 217B=78.69.69 2189=30.2044.33 222C=222B.222B 222D=222B.222B.222B
222F=222E.222E 2230=222E.222E.222E 2469=31.30 246A=31.31 246B=31.32 246C=31.33 246D=31.34
246E=31.35 246F=31.36 2470=31.37 2471=31.38 2472=31.39 2473=32.30 2474=28.31.29 2475=28.32.29
2476=28.33.29 2477=28.34.29 2478=28.35.29 2479=28.36.29 247A=28.37.29 247B=28.38.29
247C=28.39.29 247D=28.31.30.29 247E=28.31.31.29 247F=28.31.32.29 2480=28.31.33.29
2481=28.31.34.29 2482=28.31.35.29 2483=28.31.36.29 2484=28.31.37.29 2485=28.31.38.29
2486=28.31.39.29 2487=28.32.30.29 249C=28.61.29 249D=28.62.29 249E=28.63.29 249F=28.64.29
24A0=28.65.29 24A1=28.66.29 24A2=28.67.29 24A3=28.68.29 24A4=28.69.29 24A5=28.6A.29
24A6=28.6B.29 24A7=28.6C.29 24A8=28.6D.29 24A9=28.6E.29 24AA=28.6F.29 24AB=28.70.29
24AC=28.71.29 24AD=28.72.29 24AE=28.73.29 24AF=28.74.29 24B0=28.75.29 24B1=28.76.29
24B2=28.77.29 24B3=28.78.29 24B4=28.79.29 24B5=28.7A.29 2A0C=222B.222B.222B.222B 2A74=3A.3A.3D
2A75=3D.3D 2A76=3D.3D.3D 2ADC=2ADD.338 309B=20.3099 309C=20.309A 309F=3088.308A 30FF=30B3.30C8
3200=28.1100.29 3201=28.1102.29 3202=28.1103.29 3203=28.1105.29 3204=28.1106.29 3205=28.1107.29
3206=28.1109.29 3207=28.110B.29 3208=28.110C.29 3209=28.110E.29 320A=28.110F.29 320B=28.1110.29
320C=28.1111.29 320D=28.1112.29 320E=28.AC00.29 320F=28.B098.29 3210=28.B2E4.29 3211=28.B77C.29
3212=28.B9C8.29 3213=28.BC14.29 3214=28.C0AC.29 3215=28.C544.29 3216=28.C790.29 3217=28.CC28.29
3218=28.CE74.29 3219=28.D0C0.29 321A=28.D30C.29 321B=28.D558.29 321C=28.C8FC.29
321D=28.C624.C804.29 321E=28.C624.D6C4.29 3220=28.4E00.29 3221=28.4E8C.29 3222=28.4E09.29
3223=28.56DB.29 3224=28.4E94.29 3225=28.516D.29 3226=28.4E03.29 3227=28.516B.29 3228=28.4E5D.29
3229=28.5341.29 322A=28.6708.29 322B=28.706B.29 322C=28.6C34.29 322D=28.6728.29 322E=28.91D1.29
322F=28.571F.29 3230=28.65E5.29 3231=28.682A.29 3232=28.6709.29 3233=28.793E.29 3234=28.540D.29
3235=28.7279.29 3236=28.8CA1.29 3237=28.795D.29 3238=28.52B4.29 3239=28.4EE3.29 323A=28.547C.29
323B=28.5B66.29 323C=28.76E3.29 323D=28.4F01.29 323E=28.8CC7.29 323F=28.5354.29 3240=28.796D.29
3241=28.4F11.29 3242=28.81EA.29 3243=28.81F3.29 3250=70.74.65 3251=32.31 3252=32.32 3253=32.33
3254=32.34 3255=32.35 3256=32.36 3257=32.37 3258=32.38 3259=32.39 325A=33.30 325B=33.31
325C=33.32 325D=33.33 325E=33.34 325F=33.35 327C=CC38.ACE0 327D=C8FC.C758 32B1=33.36 32B2=33.37
32B3=33.38 32B4=33.39 32B5=34.30 32B6=34.31 32B7=34.32 32B8=34.33 32B9=34.34 32BA=34.35
32BB=34.36 32BC=34.37 32BD=34.38 32BE=34.39 32BF=35.30 32C0=31.6708 32C1=32.6708 32C2=33.6708
32C3=34.6708 32C4=35.6708 32C5=36.6708 32C6=37.6708 32C7=38.6708 32C8=39.6708 32C9=31.30.6708
32CA=31.31.6708 32CB=31.32.6708 32CC=68.67 32CD=65.72.67 32CE=65.76 32CF=6C.74.64 32FF=4EE4.548C
3300=30A2.30D1.30FC.30C8 3301=30A2.30EB.30D5.30A1 3302=30A2.30F3.30DA.30A2 3303=30A2.30FC.30EB
3304=30A4.30CB.30F3.30B0 3305=30A4.30F3.30C1 3306=30A6.30A9.30F3 3307=30A8.30B9.30AF.30FC.30C9
3308=30A8.30FC.30AB.30FC 3309=30AA.30F3.30B9 330A=30AA.30FC.30E0 330B=30AB.30A4.30EA
330C=30AB.30E9.30C3.30C8 330D=30AB.30ED.30EA.30FC 330E=30AC.30ED.30F3 330F=30AC.30F3.30DE
3310=30AE.30AC 3311=30AE.30CB.30FC 3312=30AD.30E5.30EA.30FC 3313=30AE.30EB.30C0.30FC
3314=30AD.30ED 3315=30AD.30ED.30B0.30E9.30E0 3316=30AD.30ED.30E1.30FC.30C8.30EB
3317=30AD.30ED.30EF.30C3.30C8 3318=30B0.30E9.30E0 3319=30B0.30E9.30E0.30C8.30F3
331A=30AF.30EB.30BC.30A4.30ED 331B=30AF.30ED.30FC.30CD 331C=30B1.30FC.30B9 331D=30B3.30EB.30CA
331E=30B3.30FC.30DD 331F=30B5.30A4.30AF.30EB 3320=30B5.30F3.30C1.30FC.30E0
3321=30B7.30EA.30F3.30B0 3322=30BB.30F3.30C1 3323=30BB.30F3.30C8 3324=30C0.30FC.30B9
3325=30C7.30B7 3326=30C9.30EB 3327=30C8.30F3 3328=30CA.30CE 3329=30CE.30C3.30C8
332A=30CF.30A4.30C4 332B=30D1.30FC.30BB.30F3.30C8 332C=30D1.30FC.30C4 332D=30D0.30FC.30EC.30EB
332E=30D4.30A2.30B9.30C8.30EB 332F=30D4.30AF.30EB 3330=30D4.30B3 3331=30D3.30EB
3332=30D5.30A1.30E9.30C3.30C9 3333=30D5.30A3.30FC.30C8 3334=30D6.30C3.30B7.30A7.30EB
3335=30D5.30E9.30F3 3336=30D8.30AF.30BF.30FC.30EB 3337=30DA.30BD 3338=30DA.30CB.30D2
3339=30D8.30EB.30C4 333A=30DA.30F3.30B9 333B=30DA.30FC.30B8 333C=30D9.30FC.30BF
333D=30DD.30A4.30F3.30C8 333E=30DC.30EB.30C8 333F=30DB.30F3 3340=30DD.30F3.30C9
3341=30DB.30FC.30EB 3342=30DB.30FC.30F3 3343=30DE.30A4.30AF.30ED 3344=30DE.30A4.30EB
3345=30DE.30C3.30CF 3346=30DE.30EB.30AF 3347=30DE.30F3.30B7.30E7.30F3 3348=30DF.30AF.30ED.30F3
3349=30DF.30EA 334A=30DF.30EA.30D0.30FC.30EB 334B=30E1.30AC 334C=30E1.30AC.30C8.30F3
334D=30E1.30FC.30C8.30EB 334E=30E4.30FC.30C9 334F=30E4.30FC.30EB 3350=30E6.30A2.30F3
3351=30EA.30C3.30C8.30EB 3352=30EA.30E9 3353=30EB.30D4.30FC 3354=30EB.30FC.30D6.30EB
3355=30EC.30E0 3356=30EC.30F3.30C8.30B2.30F3 3357=30EF.30C3.30C8 3358=30.70B9 3359=31.70B9
335A=32.70B9 335B=33.70B9 335C=34.70B9 335D=35.70B9 335E=36.70B9 335F=37.70B9 3360=38.70B9
3361=39.70B9 3362=31.30.70B9 3363=31.31.70B9 3364=31.32.70B9 3365=31.33.70B9 3366=31.34.70B9
3367=31.35.70B9 3368=31.36.70B9 3369=31.37.70B9 336A=31.38.70B9 336B=31.39.70B9 336C=32.30.70B9
336D=32.31.70B9 336E=32.32.70B9 336F=32.33.70B9 3370=32.34.70B9 3371=68.70.61 3372=64.61
3373=61.75 3374=62.61.72 3375=6F.76 3376=70.63 3377=64.6D 3378=64.6D.32 3379=64.6D.33 337A=69.75
337B=5E73.6210 337C=662D.548C 337D=5927.6B63 337E=660E.6CBB 337F=682A.5F0F.4F1A.793E 3380=70.61
3381=6E.61 3382=3BC.61 3383=6D.61 3384=6B.61 3385=6B.62 3386=6D.62 3387=67.62 3388=63.61.6C
3389=6B.63.61.6C 338A=70.66 338B=6E.66 338C=3BC.66 338D=3BC.67 338E=6D.67 338F=6B.67 3390=68.7A
3391=6B.68.7A 3392=6D.68.7A 3393=67.68.7A 3394=74.68.7A 3395=3BC.6C 3396=6D.6C 3397=64.6C
3398=6B.6C 3399=66.6D 339A=6E.6D 339B=3BC.6D 339C=6D.6D 339D=63.6D 339E=6B.6D 339F=6D.6D.32
33A0=63.6D.32 33A1=6D.32 33A2=6B.6D.32 33A3=6D.6D.33 33A4=63.6D.33 33A5=6D.33 33A6=6B.6D.33
33A7=6D.2215.73 33A8=6D.2215.73.32 33A9=70.61 33AA=6B.70.61 33AB=6D.70.61 33AC=67.70.61
33AD=72.61.64 33AE=72.61.64.2215.73 33AF=72.61.64.2215.73.32 33B0=70.73 33B1=6E.73 33B2=3BC.73
33B3=6D.73 33B4=70.76 33B5=6E.76 33B6=3BC.76 33B7=6D.76 33B8=6B.76 33B9=6D.76 33BA=70.77
33BB=6E.77 33BC=3BC.77 33BD=6D.77 33BE=6B.77 33BF=6D.77 33C0=6B.3C9 33C1=6D.3C9 33C3=62.71
33C4=63.63 33C5=63.64 33C6=63.2215.6B.67 33C8=64.62 33C9=67.79 33CA=68.61 33CB=68.70 33CC=69.6E
33CD=6B.6B 33CE=6B.6D 33CF=6B.74 33D0=6C.6D 33D1=6C.6E 33D2=6C.6F.67 33D3=6C.78 33D4=6D.62
33D5=6D.69.6C 33D6=6D.6F.6C 33D7=70.68 33D9=70.70.6D 33DA=70.72 33DB=73.72 33DC=73.76 33DD=77.62
33DE=76.2215.6D 33DF=61.2215.6D 33E0=31.65E5 33E1=32.65E5 33E2=33.65E5 33E3=34.65E5 33E4=35.65E5
33E5=36.65E5 33E6=37.65E5 33E7=38.65E5 33E8=39.65E5 33E9=31.30.65E5 33EA=31.31.65E5
33EB=31.32.65E5 33EC=31.33.65E5 33ED=31.34.65E5 33EE=31.35.65E5 33EF=31.36.65E5 33F0=31.37.65E5
33F1=31.38.65E5 33F2=31.39.65E5 33F3=32.30.65E5 33F4=32.31.65E5 33F5=32.32.65E5 33F6=32.33.65E5
33F7=32.34.65E5 33F8=32.35.65E5 33F9=32.36.65E5 33FA=32.37.65E5 33FB=32.38.65E5 33FC=32.39.65E5
33FD=33.30.65E5 33FE=33.31.65E5 33FF=67.61.6C FB00=66.66 FB01=66.69 FB02=66.6C FB03=66.66.69
FB04=66.66.6C FB05=73.74 FB06=73.74 FB13=574.576 FB14=574.565 FB15=574.56B FB16=57E.576
FB17=574.56D FB1D=5D9.5B4 FB1F=5F2.5B7 FB2A=5E9.5C1 FB2B=5E9.5C2 FB2C=5E9.5BC.5C1
FB2D=5E9.5BC.5C2 FB2E=5D0.5B7 FB2F=5D0.5B8 FB30=5D0.5BC FB31=5D1.5BC FB32=5D2.5BC FB33=5D3.5BC
FB34=5D4.5BC FB35=5D5.5BC FB36=5D6.5BC FB38=5D8.5BC FB39=5D9.5BC FB3A=5DA.5BC FB3B=5DB.5BC
FB3C=5DC.5BC FB3E=5DE.5BC FB40=5E0.5BC FB41=5E1.5BC FB43=5E3.5BC FB44=5E4.5BC FB46=5E6.5BC
FB47=5E7.5BC FB48=5E8.5BC FB49=5E9.5BC FB4A=5EA.5BC FB4B=5D5.5B9 FB4C=5D1.5BF FB4D=5DB.5BF
FB4E=5E4.5BF FB4F=5D0.5DC FBDD=6C7.674 FBEA=626.627 FBEB=626.627 FBEC=626.6D5 FBED=626.6D5
FBEE=626.648 FBEF=626.648 FBF0=626.6C7 FBF1=626.6C7 FBF2=626.6C6 FBF3=626.6C6 FBF4=626.6C8
FBF5=626.6C8 FBF6=626.6D0 FBF7=626.6D0 FBF8=626.6D0 FBF9=626.649 FBFA=626.649 FBFB=626.649
FC00=626.62C FC01=626.62D FC02=626.645 FC03=626.649 FC04=626.64A FC05=628.62C FC06=628.62D
FC07=628.62E FC08=628.645 FC09=628.649 FC0A=628.64A FC0B=62A.62C FC0C=62A.62D FC0D=62A.62E
FC0E=62A.645 FC0F=62A.649 FC10=62A.64A FC11=62B.62C FC12=62B.645 FC13=62B.649 FC14=62B.64A
FC15=62C.62D FC16=62C.645 FC17=62D.62C FC18=62D.645 FC19=62E.62C FC1A=62E.62D FC1B=62E.645
FC1C=633.62C FC1D=633.62D FC1E=633.62E FC1F=633.645 FC20=635.62D FC21=635.645 FC22=636.62C
FC23=636.62D FC24=636.62E FC25=636.645 FC26=637.62D FC27=637.645 FC28=638.645 FC29=639.62C
FC2A=639.645 FC2B=63A.62C FC2C=63A.645 FC2D=641.62C FC2E=641.62D FC2F=641.62E FC30=641.645
FC31=641.649 FC32=641.64A FC33=642.62D FC34=642.645 FC35=642.649 FC36=642.64A FC37=643.627
FC38=643.62C FC39=643.62D FC3A=643.62E FC3B=643.644 FC3C=643.645 FC3D=643.649 FC3E=643.64A
FC3F=644.62C FC40=644.62D FC41=644.62E FC42=644.645 FC43=644.649 FC44=644.64A FC45=645.62C
FC46=645.62D FC47=645.62E FC48=645.645 FC49=645.649 FC4A=645.64A FC4B=646.62C FC4C=646.62D
FC4D=646.62E FC4E=646.645 FC4F=646.649 FC50=646.64A FC51=647.62C FC52=647.645 FC53=647.649
FC54=647.64A FC55=64A.62C FC56=64A.62D FC57=64A.62E FC58=64A.645 FC59=64A.649 FC5A=64A.64A
FC5B=630.670 FC5C=631.670 FC5D=649.670 FC5E=20.64C.651 FC5F=20.64D.651 FC60=20.64E.651
FC61=20.64F.651 FC62=20.650.651 FC63=20.651.670 FC64=626.631 FC65=626.632 FC66=626.645
FC67=626.646 FC68=626.649 FC69=626.64A FC6A=628.631 FC6B=628.632 FC6C=628.645 FC6D=628.646
FC6E=628.649 FC6F=628.64A FC70=62A.631 FC71=62A.632 FC72=62A.645 FC73=62A.646 FC74=62A.649
FC75=62A.64A FC76=62B.631 FC77=62B.632 FC78=62B.645 FC79=62B.646 FC7A=62B.649 FC7B=62B.64A
FC7C=641.649 FC7D=641.64A FC7E=642.649 FC7F=642.64A FC80=643.627 FC81=643.644 FC82=643.645
FC83=643.649 FC84=643.64A FC85=644.645 FC86=644.649 FC87=644.64A FC88=645.627 FC89=645.645
FC8A=646.631 FC8B=646.632 FC8C=646.645 FC8D=646.646 FC8E=646.649 FC8F=646.64A FC90=649.670
FC91=64A.631 FC92=64A.632 FC93=64A.645 FC94=64A.646 FC95=64A.649 FC96=64A.64A FC97=626.62C
FC98=626.62D FC99=626.62E FC9A=626.645 FC9B=626.647 FC9C=628.62C FC9D=628.62D FC9E=628.62E
FC9F=628.645 FCA0=628.647 FCA1=62A.62C FCA2=62A.62D FCA3=62A.62E FCA4=62A.645 FCA5=62A.647
FCA6=62B.645 FCA7=62C.62D FCA8=62C.645 FCA9=62D.62C FCAA=62D.645 FCAB=62E.62C FCAC=62E.645
FCAD=633.62C FCAE=633.62D FCAF=633.62E FCB0=633.645 FCB1=635.62D FCB2=635.62E FCB3=635.645
FCB4=636.62C FCB5=636.62D FCB6=636.62E FCB7=636.645 FCB8=637.62D FCB9=638.645 FCBA=639.62C
FCBB=639.645 FCBC=63A.62C FCBD=63A.645 FCBE=641.62C FCBF=641.62D FCC0=641.62E FCC1=641.645
FCC2=642.62D FCC3=642.645 FCC4=643.62C FCC5=643.62D FCC6=643.62E FCC7=643.644 FCC8=643.645
FCC9=644.62C FCCA=644.62D FCCB=644.62E FCCC=644.645 FCCD=644.647 FCCE=645.62C FCCF=645.62D
FCD0=645.62E FCD1=645.645 FCD2=646.62C FCD3=646.62D FCD4=646.62E FCD5=646.645 FCD6=646.647
FCD7=647.62C FCD8=647.645 FCD9=647.670 FCDA=64A.62C FCDB=64A.62D FCDC=64A.62E FCDD=64A.645
FCDE=64A.647 FCDF=626.645 FCE0=626.647 FCE1=628.645 FCE2=628.647 FCE3=62A.645 FCE4=62A.647
FCE5=62B.645 FCE6=62B.647 FCE7=633.645 FCE8=633.647 FCE9=634.645 FCEA=634.647 FCEB=643.644
FCEC=643.645 FCED=644.645 FCEE=646.645 FCEF=646.647 FCF0=64A.645 FCF1=64A.647 FCF2=640.64E.651
FCF3=640.64F.651 FCF4=640.650.651 FCF5=637.649 FCF6=637.64A FCF7=639.649 FCF8=639.64A
FCF9=63A.649 FCFA=63A.64A FCFB=633.649 FCFC=633.64A FCFD=634.649 FCFE=634.64A FCFF=62D.649
FD00=62D.64A FD01=62C.649 FD02=62C.64A FD03=62E.649 FD04=62E.64A FD05=635.649 FD06=635.64A
FD07=636.649 FD08=636.64A FD09=634.62C FD0A=634.62D FD0B=634.62E FD0C=634.645 FD0D=634.631
FD0E=633.631 FD0F=635.631 FD10=636.631 FD11=637.649 FD12=637.64A FD13=639.649 FD14=639.64A
FD15=63A.649 FD16=63A.64A FD17=633.649 FD18=633.64A FD19=634.649 FD1A=634.64A FD1B=62D.649
FD1C=62D.64A FD1D=62C.649 FD1E=62C.64A FD1F=62E.649 FD20=62E.64A FD21=635.649 FD22=635.64A
FD23=636.649 FD24=636.64A FD25=634.62C FD26=634.62D FD27=634.62E FD28=634.645 FD29=634.631
FD2A=633.631 FD2B=635.631 FD2C=636.631 FD2D=634.62C FD2E=634.62D FD2F=634.62E FD30=634.645
FD31=633.647 FD32=634.647 FD33=637.645 FD34=633.62C FD35=633.62D FD36=633.62E FD37=634.62C
FD38=634.62D FD39=634.62E FD3A=637.645 FD3B=638.645 FD3C=627.64B FD3D=627.64B FD50=62A.62C.645
FD51=62A.62D.62C FD52=62A.62D.62C FD53=62A.62D.645 FD54=62A.62E.645 FD55=62A.645.62C
FD56=62A.645.62D FD57=62A.645.62E FD58=62C.645.62D FD59=62C.645.62D FD5A=62D.645.64A
FD5B=62D.645.649 FD5C=633.62D.62C FD5D=633.62C.62D FD5E=633.62C.649 FD5F=633.645.62D
FD60=633.645.62D FD61=633.645.62C FD62=633.645.645 FD63=633.645.645 FD64=635.62D.62D
FD65=635.62D.62D FD66=635.645.645 FD67=634.62D.645 FD68=634.62D.645 FD69=634.62C.64A
FD6A=634.645.62E FD6B=634.645.62E FD6C=634.645.645 FD6D=634.645.645 FD6E=636.62D.649
FD6F=636.62E.645 FD70=636.62E.645 FD71=637.645.62D FD72=637.645.62D FD73=637.645.645
FD74=637.645.64A FD75=639.62C.645 FD76=639.645.645 FD77=639.645.645 FD78=639.645.649
FD79=63A.645.645 FD7A=63A.645.64A FD7B=63A.645.649 FD7C=641.62E.645 FD7D=641.62E.645
FD7E=642.645.62D FD7F=642.645.645 FD80=644.62D.645 FD81=644.62D.64A FD82=644.62D.649
FD83=644.62C.62C FD84=644.62C.62C FD85=644.62E.645 FD86=644.62E.645 FD87=644.645.62D
FD88=644.645.62D FD89=645.62D.62C FD8A=645.62D.645 FD8B=645.62D.64A FD8C=645.62C.62D
FD8D=645.62C.645 FD8E=645.62E.62C FD8F=645.62E.645 FD92=645.62C.62E FD93=647.645.62C
FD94=647.645.645 FD95=646.62D.645 FD96=646.62D.649 FD97=646.62C.645 FD98=646.62C.645
FD99=646.62C.649 FD9A=646.645.64A FD9B=646.645.649 FD9C=64A.645.645 FD9D=64A.645.645
FD9E=628.62E.64A FD9F=62A.62C.64A FDA0=62A.62C.649 FDA1=62A.62E.64A FDA2=62A.62E.649
FDA3=62A.645.64A FDA4=62A.645.649 FDA5=62C.645.64A FDA6=62C.62D.649 FDA7=62C.645.649
FDA8=633.62E.649 FDA9=635.62D.64A FDAA=634.62D.64A FDAB=636.62D.64A FDAC=644.62C.64A
FDAD=644.645.64A FDAE=64A.62D.64A FDAF=64A.62C.64A FDB0=64A.645.64A FDB1=645.645.64A
FDB2=642.645.64A FDB3=646.62D.64A FDB4=642.645.62D FDB5=644.62D.645 FDB6=639.645.64A
FDB7=643.645.64A FDB8=646.62C.62D FDB9=645.62E.64A FDBA=644.62C.645 FDBB=643.645.645
FDBC=644.62C.645 FDBD=646.62C.62D FDBE=62C.62D.64A FDBF=62D.62C.64A FDC0=645.62C.64A
FDC1=641.645.64A FDC2=628.62D.64A FDC3=643.645.645 FDC4=639.62C.645 FDC5=635.645.645
FDC6=633.62E.64A FDC7=646.62C.64A FDF0=635.644.6D2 FDF1=642.644.6D2 FDF2=627.644.644.647
FDF3=627.643.628.631 FDF4=645.62D.645.62F FDF5=635.644.639.645 FDF6=631.633.648.644
FDF7=639.644.64A.647 FDF8=648.633.644.645 FDF9=635.644.649
FDFA=635.644.649.20.627.644.644.647.20.639.644.64A.647.20.648.633.644.645
FDFB=62C.644.20.62C.644.627.644.647 FDFC=631.6CC.627.644 FE49=20.305 FE4A=20.305 FE4B=20.305
FE4C=20.305 FE70=20.64B FE71=640.64B FE72=20.64C FE74=20.64D FE76=20.64E FE77=640.64E
FE78=20.64F FE79=640.64F FE7A=20.650 FE7B=640.650 FE7C=20.651 FE7D=640.651 FE7E=20.652
FE7F=640.652 FEF5=644.622 FEF6=644.622 FEF7=644.623 FEF8=644.623 FEF9=644.625 FEFA=644.625
FEFB=644.627 FEFC=644.627 FFE3=20.304 1D15E=1D157.1D165 1D15F=1D158.1D165
1D160=1D158.1D165.1D16E 1D161=1D158.1D165.1D16F 1D162=1D158.1D165.1D170 1D163=1D158.1D165.1D171
1D164=1D158.1D165.1D172 1D1BB=1D1B9.1D165 1D1BC=1D1BA.1D165 1D1BD=1D1B9.1D165.1D16E
1D1BE=1D1BA.1D165.1D16E 1D1BF=1D1B9.1D165.1D16F 1D1C0=1D1BA.1D165.1D16F 1F101=30.2C 1F102=31.2C
1F103=32.2C 1F104=33.2C 1F105=34.2C 1F106=35.2C 1F107=36.2C 1F108=37.2C 1F109=38.2C 1F10A=39.2C
1F110=28.61.29 1F111=28.62.29 1F112=28.63.29 1F113=28.64.29 1F114=28.65.29 1F115=28.66.29
1F116=28.67.29 1F117=28.68.29 1F118=28.69.29 1F119=28.6A.29 1F11A=28.6B.29 1F11B=28.6C.29
1F11C=28.6D.29 1F11D=28.6E.29 1F11E=28.6F.29 1F11F=28.70.29 1F120=28.71.29 1F121=28.72.29
1F122=28.73.29 1F123=28.74.29 1F124=28.75.29 1F125=28.76.29 1F126=28.77.29 1F127=28.78.29
1F128=28.79.29 1F129=28.7A.29 1F12A=3014.73.3015 1F12D=63.64 1F12E=77.7A 1F14A=68.76 1F14B=6D.76
1F14C=73.64 1F14D=73.73 1F14E=70.70.76 1F14F=77.63 1F16A=6D.63 1F16B=6D.64 1F16C=6D.72
1F190=64.6A 1F200=307B.304B 1F201=30B3.30B3 1F240=3014.672C.3015 1F241=3014.4E09.3015
1F242=3014.4E8C.3015 1F243=3014.5B89.3015 1F244=3014.70B9.3015 1F245=3014.6253.3015
1F246=3014.76D7.3015 1F247=3014.52DD.3015 1F248=3014.6557.3015"

end ArtifactSync.Url.Idna
