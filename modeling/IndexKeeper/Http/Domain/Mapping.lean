import IndexKeeper.Text.Ranges

/-!
# Characters of domain names

What a character of a domain name is replaced by before names are compared: itself, nothing, the
character some places further on, or other characters.  So letters come into lower case, and other
forms of a letter or a digit into the plain one.  Characters without an entry stand in no name.
The table is that of Unicode 17 for the processing of internationalized names, in which the four
letters that once were replaced stand for themselves.
-/

namespace IndexKeeper.Domain

/-- What the characters of a range are replaced by. -/
inductive Replacement
  | itself
  | nothing
  /-- The first by the given character, and so on. -/
  | shifted (first : Nat)
  /-- The first and every second after it by the character that follows it. -/
  | paired
  /-- The first by the first text, and so on. -/
  | texts (each : List (List Nat))
  deriving Repr

/-- The characters of a range and what they are replaced by. -/
structure Entry where
  first : Nat
  last : Nat
  replacement : Replacement
  deriving Repr

namespace Entry

/-- The entry that a word of the table stands for.  After the range come `!` for nothing, `/` for
pairs, `>` and a character, or `=` and texts with dots between them, whose characters have
underscores between them. -/
def ofWord (word : List Char) : Entry :=
  let isSign (c : Char) : Bool := ['!', '/', '>', '='].contains c
  let (first, last) := splitFirst (· == '-') (word.takeWhile (!isSign ·))
  let first := hexNumber first
  let last := (last.map hexNumber).getD first
  match word.dropWhile (!isSign ·) with
  | '!' :: _ => ⟨first, last, .nothing⟩
  | '/' :: _ => ⟨first, last, .paired⟩
  | '>' :: target => ⟨first, last, .shifted (hexNumber target)⟩
  | '=' :: texts =>
    let each := (splitChars (· == '.') texts).map fun text =>
      (splitChars (· == '_') text).map hexNumber
    ⟨first, first + each.length - 1, .texts each⟩
  | _ => ⟨first, last, .itself⟩

/-- What a character of the range is replaced by. -/
def replace (e : Entry) (n : Nat) : List Nat :=
  match e.replacement with
  | .itself => [n]
  | .nothing => []
  | .shifted first => [first + (n - e.first)]
  | .paired => if (n - e.first) % 2 = 0 then [n + 1] else [n]
  | .texts each => each.getD (n - e.first) []

end Entry

/-- The table of replacements. -/
def entries : List Entry := (tableWords
  ["0-40 41-5a>61 5b-7f a0=20 a1-a7 a8=20_308 a9 aa=61 ab-ac ad! ae af=20_304 b0-b1",
   "b2=32.33.20_301.3bc b6-b7 b8=20_327.31.6f bb bc=31_2044_34.31_2044_32.33_2044_34 bf c0-d6>e0",
   "d7 d8-de>f8 df-ff 100-12f/ 130=69_307 131 132=69_6a.69_6a 134-137/ 138 139-13e/",
   "13f=6c_b7.6c_b7 141-148/ 149=2bc_6e 14a-177/ 178=ff 179-17e/ 17f=73 180 181=253 182-185/",
   "186=254 187=188 188 189=256.257 18b=18c 18c-18d 18e=1dd.259.25b 191=192 192 193=260.263 195",
   "196=269.268 198=199 199-19b 19c=26f.272 19e 19f=275 1a0-1a5/ 1a6=280 1a7=1a8 1a8 1a9=283",
   "1aa-1ab 1ac=1ad 1ad 1ae=288 1af=1b0 1b0 1b1=28a.28b 1b3-1b6/ 1b7=292 1b8=1b9 1b9-1bb 1bc=1bd",
   "1bd-1c3 1c4=64_17e.64_17e.64_17e.6c_6a.6c_6a.6c_6a.6e_6a.6e_6a.6e_6a 1cd-1dc/ 1dd 1de-1ef/",
   "1f0 1f1=64_7a.64_7a.64_7a 1f4=1f5 1f5 1f6=195.1bf 1f8-21f/ 220=19e 221 222-233/ 234-239",
   "23a=2c65 23b=23c 23c 23d=19a.2c66 23f-240 241=242 242 243=180.289.28c 246-24f/ 250-2af",
   "2b0=68.266.6a.72.279.27b.281.77.79 2b9-2d7 2d8=20_306.20_307.20_30a.20_328.20_303.20_30b",
   "2de-2df 2e0=263.6c.73.78.295 2e5-33f 340=300.301 342 343=313.308_301.3b9 346-34e 34f! 350-36f",
   "370-373/ 374=2b9 375 376=377 377 37a=20_3b9 37b-37d 37e=3b.3f3",
   "384=20_301.20_308_301.3ac.b7.3ad.3ae.3af 38c=3cc 38e=3cd.3ce 390 391-3a1>3b1 3a3-3ab>3c3",
   "3ac-3ce 3cf=3d7.3b2.3b8.3c5.3cd.3cb.3c6.3c0 3d7 3d8-3ef/ 3f0=3ba.3c1.3c3 3f3 3f4=3b8.3b5 3f6",
   "3f7=3f8 3f8 3f9=3c3 3fa=3fb 3fb-3fc 3fd-3ff>37b 400-40f>450 410-42f>430 430-45f 460-481/",
   "482-489 48a-4bf/ 4c0=4cf 4c1-4ce/ 4cf 4d0-52f/ 531-556>561 559-586 587=565_582 588-58a",
   "58d-58f 591-5c7 5d0-5ea 5ef-5f4 606-61b 61d-674 675=627_674.648_674.6c7_674.64a_674 679-6dc",
   "6de-70d 710-74a 74d-7b1 7c0-7fa 7fd-82d 830-83e 840-85b 85e 860-86a 870-88f 897-8e1 8e3-957",
   "958=915_93c.916_93c.917_93c.91c_93c.921_93c.922_93c.92b_93c.92f_93c 960-983 985-98c 98f-990",
   "993-9a8 9aa-9b0 9b2 9b6-9b9 9bc-9c4 9c7-9c8 9cb-9ce 9d7 9dc=9a1_9bc.9a2_9bc 9df=9af_9bc",
   "9e0-9e3 9e6-9fe a01-a03 a05-a0a a0f-a10 a13-a28 a2a-a30 a32 a33=a32_a3c a35 a36=a38_a3c",
   "a38-a39 a3c a3e-a42 a47-a48 a4b-a4d a51 a59=a16_a3c.a17_a3c.a1c_a3c a5c a5e=a2b_a3c a66-a76",
   "a81-a83 a85-a8d a8f-a91 a93-aa8 aaa-ab0 ab2-ab3 ab5-ab9 abc-ac5 ac7-ac9 acb-acd ad0 ae0-ae3",
   "ae6-af1 af9-aff b01-b03 b05-b0c b0f-b10 b13-b28 b2a-b30 b32-b33 b35-b39 b3c-b44 b47-b48",
   "b4b-b4d b55-b57 b5c=b21_b3c.b22_b3c b5f-b63 b66-b77 b82-b83 b85-b8a b8e-b90 b92-b95 b99-b9a",
   "b9c b9e-b9f ba3-ba4 ba8-baa bae-bb9 bbe-bc2 bc6-bc8 bca-bcd bd0 bd7 be6-bfa c00-c0c c0e-c10",
   "c12-c28 c2a-c39 c3c-c44 c46-c48 c4a-c4d c55-c56 c58-c5a c5c-c5d c60-c63 c66-c6f c77-c8c",
   "c8e-c90 c92-ca8 caa-cb3 cb5-cb9 cbc-cc4 cc6-cc8 cca-ccd cd5-cd6 cdc-cde ce0-ce3 ce6-cef",
   "cf1-cf3 d00-d0c d0e-d10 d12-d44 d46-d48 d4a-d4f d54-d63 d66-d7f d81-d83 d85-d96 d9a-db1",
   "db3-dbb dbd dc0-dc6 dca dcf-dd4 dd6 dd8-ddf de6-def df2-df4 e01-e32 e33=e4d_e32 e34-e3a",
   "e3f-e5b e81-e82 e84 e86-e8a e8c-ea3 ea5 ea7-eb2 eb3=ecd_eb2 eb4-ebd ec0-ec4 ec6 ec8-ece",
   "ed0-ed9 edc=eab_e99.eab_ea1 ede-edf f00-f0b f0c=f0b f0d-f42 f43=f42_fb7 f44-f47 f49-f4c",
   "f4d=f4c_fb7 f4e-f51 f52=f51_fb7 f53-f56 f57=f56_fb7 f58-f5b f5c=f5b_fb7 f5d-f68 f69=f40_fb5",
   "f6a-f6c f71-f72 f73=f71_f72 f74 f75=f71_f74.fb2_f80.fb2_f71_f80.fb3_f80.fb3_f71_f80 f7a-f80",
   "f81=f71_f80 f82-f92 f93=f92_fb7 f94-f97 f99-f9c f9d=f9c_fb7 f9e-fa1 fa2=fa1_fb7 fa3-fa6",
   "fa7=fa6_fb7 fa8-fab fac=fab_fb7 fad-fb8 fb9=f90_fb5 fba-fbc fbe-fcc fce-fda 1000-109f",
   "10a0-10c5>2d00 10c7=2d27 10cd=2d2d 10d0-10fb 10fc=10dc 10fd-115e 115f-1160! 1161-1248",
   "124a-124d 1250-1256 1258 125a-125d 1260-1288 128a-128d 1290-12b0 12b2-12b5 12b8-12be 12c0",
   "12c2-12c5 12c8-12d6 12d8-1310 1312-1315 1318-135a 135d-137c 1380-1399 13a0-13f5",
   "13f8-13fd>13f0 1400-167f 1681-169c 16a0-16f8 1700-1715 171f-1736 1740-1753 1760-176c",
   "176e-1770 1772-1773 1780-17b3 17b4-17b5! 17b6-17dd 17e0-17e9 17f0-17f9 1800-180a 180b-180f!",
   "1810-1819 1820-1878 1880-18aa 18b0-18f5 1900-191e 1920-192b 1930-193b 1940 1944-196d",
   "1970-1974 1980-19ab 19b0-19c9 19d0-19da 19de-1a1b 1a1e-1a5e 1a60-1a7c 1a7f-1a89 1a90-1a99",
   "1aa0-1aad 1ab0-1add 1ae0-1aeb 1b00-1b4c 1b4e-1bf3 1bfc-1c37 1c3b-1c49 1c4d-1c7f",
   "1c80=432.434.43e.441.442.442.44a.463.a64b 1c89=1c8a 1c8a 1c90-1cba>10d0 1cbd-1cbf>10fd",
   "1cc0-1cc7 1cd0-1cfa 1d00-1d2b 1d2c=61.e6.62 1d2f 1d30=64.65.1dd 1d33-1d3a>67 1d3b",
   "1d3c=6f.223.70.72.74.75.77.61.250.251.1d02.62 1d48=64.65.259.25b.25c.67 1d4e",
   "1d4f=6b.6d.14b.6f.254.1d16.1d17.70.74.75.1d1d.26f",
   "1d5b=76.1d25.3b2.3b3.3b4.3c6.3c7.69.72.75.76.3b2 1d67=3b3.3c1.3c6.3c7 1d6b-1d77 1d78=43d",
   "1d79-1d9a 1d9b=252.63.255.f0.25c.66.25f.261.265.268.269.26a",
   "1da7=1d7b.29d.26d.1d85.29f.271.270 1dae-1db1>272",
   "1db2=278.282.283.1ab.289.28a.1d1c.28b.28c.7a.290.291 1dbe=292.3b8 1dc0-1dff 1e00-1e95/",
   "1e96-1e99 1e9a=61_2be.1e61 1e9c-1e9d 1e9e=df 1e9f 1ea0-1eff/ 1f00-1f07 1f08-1f0f>1f00",
   "1f10-1f15 1f18-1f1d>1f10 1f20-1f27 1f28-1f2f>1f20 1f30-1f37 1f38-1f3f>1f30 1f40-1f45",
   "1f48-1f4d>1f40 1f50-1f57 1f59=1f51 1f5b=1f53 1f5d=1f55 1f5f=1f57 1f60-1f67 1f68-1f6f>1f60",
   "1f70 1f71=3ac 1f72 1f73=3ad 1f74 1f75=3ae 1f76 1f77=3af 1f78 1f79=3cc 1f7a 1f7b=3cd 1f7c",
   "1f7d=3ce 1f80=1f00_3b9.1f01_3b9.1f02_3b9.1f03_3b9.1f04_3b9.1f05_3b9.1f06_3b9.1f07_3b9",
   "1f88=1f00_3b9.1f01_3b9.1f02_3b9.1f03_3b9.1f04_3b9.1f05_3b9.1f06_3b9.1f07_3b9",
   "1f90=1f20_3b9.1f21_3b9.1f22_3b9.1f23_3b9.1f24_3b9.1f25_3b9.1f26_3b9.1f27_3b9",
   "1f98=1f20_3b9.1f21_3b9.1f22_3b9.1f23_3b9.1f24_3b9.1f25_3b9.1f26_3b9.1f27_3b9",
   "1fa0=1f60_3b9.1f61_3b9.1f62_3b9.1f63_3b9.1f64_3b9.1f65_3b9.1f66_3b9.1f67_3b9",
   "1fa8=1f60_3b9.1f61_3b9.1f62_3b9.1f63_3b9.1f64_3b9.1f65_3b9.1f66_3b9.1f67_3b9 1fb0-1fb1",
   "1fb2=1f70_3b9.3b1_3b9.3ac_3b9 1fb6",
   "1fb7=1fb6_3b9.1fb0.1fb1.1f70.3ac.3b1_3b9.20_313.3b9.20_313.20_342.20_308_342",
   "1fc2=1f74_3b9.3b7_3b9.3ae_3b9 1fc6",
   "1fc7=1fc6_3b9.1f72.3ad.1f74.3ae.3b7_3b9.20_313_300.20_313_301.20_313_342 1fd0-1fd2 1fd3=390",
   "1fd6-1fd7 1fd8=1fd0.1fd1.1f76.3af 1fdd=20_314_300.20_314_301.20_314_342 1fe0-1fe2 1fe3=3b0",
   "1fe4-1fe7 1fe8=1fe0.1fe1.1f7a.3cd.1fe5.20_308_300.20_308_301.60 1ff2=1f7c_3b9.3c9_3b9.3ce_3b9",
   "1ff6 1ff7=1ff6_3b9.1f78.3cc.1f7c.3ce.3c9_3b9.20_301.20_314",
   "2000=20.20.20.20.20.20.20.20.20.20.20 200b! 200c-200d 2010 2011=2010 2012-2016 2017=20_333",
   "2018-2023 2027 202f=20 2030-2032 2033=2032_2032.2032_2032_2032 2035",
   "2036=2035_2035.2035_2035_2035 2038-203b 203c=21_21 203d 203e=20_305 203f-2046",
   "2047=3f_3f.3f_21.21_3f 204a-2056 2057=2032_2032_2032_2032 2058-205e 205f=20 2060-2064!",
   "206a-206f! 2070=30.69 2074-2079>34 207a=2b.2212.3d.28.29.6e 2080-2089>30",
   "208a=2b.2212.3d.28.29 2090=61.65.6f.78.259.68 2096-2099>6b 209a=70.73.74 20a0-20a7 20a8=72_73",
   "20a9-20c1 20d0-20f0 2100=61_2f_63.61_2f_73.63.b0_63 2104 2105=63_2f_6f.63_2f_75.25b 2108",
   "2109=b0_66.67.68.68.68.68.127.69.69.6c.6c 2114 2115=6e.6e_6f 2117-2118 2119-211b>70",
   "211c=72.72 211e-211f 2120=73_6d.74_65_6c.74_6d 2123 2124=7a 2125 2126=3c9 2127 2128=7a 2129",
   "212a=6b.e5.62.63 212e 212f=65.65.66.214e.6d.6f 2135-2138>5d0 2139=69 213a",
   "213b=66_61_78.3c0.3b3.3b3.3c0.2211 2141-2144 2145=64.64.65.69.6a 214a-214f",
   "2150=31_2044_37.31_2044_39.31_2044_31_30.31_2044_33.32_2044_33.31_2044_35",
   "2156=32_2044_35.33_2044_35.34_2044_35.31_2044_36.35_2044_36.31_2044_38",
   "215c=33_2044_38.35_2044_38.37_2044_38.31_2044.69.69_69.69_69_69.69_76.76",
   "2165=76_69.76_69_69.76_69_69_69.69_78.78.78_69.78_69_69.6c.63.64.6d.69",
   "2171=69_69.69_69_69.69_76.76.76_69.76_69_69.76_69_69_69.69_78.78.78_69",
   "217b=78_69_69.6c.63.64.6d 2180-2182 2183=2184 2184-2188 2189=30_2044_33 218a-218b 2190-222b",
   "222c=222b_222b.222b_222b_222b 222e 222f=222e_222e.222e_222e_222e 2231-2328 2329=3008.3009",
   "232b-2429 2440-244a 2460-2468>31",
   "2469=31_30.31_31.31_32.31_33.31_34.31_35.31_36.31_37.31_38.31_39.32_30",
   "2474=28_31_29.28_32_29.28_33_29.28_34_29.28_35_29.28_36_29.28_37_29.28_38_29",
   "247c=28_39_29.28_31_30_29.28_31_31_29.28_31_32_29.28_31_33_29.28_31_34_29",
   "2482=28_31_35_29.28_31_36_29.28_31_37_29.28_31_38_29.28_31_39_29.28_32_30_29",
   "249c=28_61_29.28_62_29.28_63_29.28_64_29.28_65_29.28_66_29.28_67_29.28_68_29",
   "24a4=28_69_29.28_6a_29.28_6b_29.28_6c_29.28_6d_29.28_6e_29.28_6f_29.28_70_29",
   "24ac=28_71_29.28_72_29.28_73_29.28_74_29.28_75_29.28_76_29.28_77_29.28_78_29",
   "24b4=28_79_29.28_7a_29 24b6-24cf>61 24d0-24e9>61 24ea=30 24eb-2a0b 2a0c=222b_222b_222b_222b",
   "2a0d-2a73 2a74=3a_3a_3d.3d_3d.3d_3d_3d 2a77-2adb 2adc=2add_338 2add-2b73 2b76-2bff",
   "2c00-2c2f>2c30 2c30-2c5f 2c60=2c61 2c61 2c62=26b.1d7d.27d 2c65-2c66 2c67-2c6c/",
   "2c6d=251.271.250.252 2c71 2c72=2c73 2c73-2c74 2c75=2c76 2c76-2c7b 2c7c=6a.76.23f.240",
   "2c80-2ce3/ 2ce4-2cea 2ceb-2cee/ 2cef-2cf1 2cf2=2cf3 2cf3 2cf9-2d25 2d27 2d2d 2d30-2d67",
   "2d6f=2d61 2d70 2d7f-2d96 2da0-2da6 2da8-2dae 2db0-2db6 2db8-2dbe 2dc0-2dc6 2dc8-2dce",
   "2dd0-2dd6 2dd8-2dde 2de0-2e5d 2e80-2e99 2e9b-2e9e 2e9f=6bcd 2ea0-2ef2 2ef3=9f9f",
   "2f00=4e00.4e28.4e36.4e3f.4e59.4e85.4e8c.4ea0.4eba.513f.5165.516b",
   "2f0c=5182.5196.51ab.51e0.51f5.5200.529b.52f9.5315.531a.5338.5341",
   "2f18=535c.5369.5382.53b6.53c8.53e3.56d7.571f.58eb.5902.590a.5915",
   "2f24=5927.5973.5b50.5b80.5bf8.5c0f.5c22.5c38.5c6e.5c71.5ddb.5de5",
   "2f30=5df1.5dfe.5e72.5e7a.5e7f.5ef4.5efe.5f0b.5f13.5f50.5f61.5f73",
   "2f3c=5fc3.6208.6236.624b.652f.6534.6587.6597.65a4.65b9.65e0.65e5",
   "2f48=66f0.6708.6728.6b20.6b62.6b79.6bb3.6bcb.6bd4.6bdb.6c0f.6c14",
   "2f54=6c34.706b.722a.7236.723b.723f.7247.7259.725b.72ac.7384.7389",
   "2f60=74dc.74e6.7518.751f.7528.7530.758b.7592.7676.767d.76ae.76bf",
   "2f6c=76ee.77db.77e2.77f3.793a.79b8.79be.7a74.7acb.7af9.7c73.7cf8",
   "2f78=7f36.7f51.7f8a.7fbd.8001.800c.8012.8033.807f.8089.81e3.81ea",
   "2f84=81f3.81fc.820c.821b.821f.826e.8272.8278.864d.866b.8840.884c",
   "2f90=8863.897e.898b.89d2.8a00.8c37.8c46.8c55.8c78.8c9d.8d64.8d70",
   "2f9c=8db3.8eab.8eca.8f9b.8fb0.8fb5.9091.9149.91c6.91cc.91d1.9577",
   "2fa8=9580.961c.96b6.96b9.96e8.9751.975e.9762.9769.97cb.97ed.97f3",
   "2fb4=9801.98a8.98db.98df.9996.9999.99ac.9aa8.9ad8.9adf.9b25.9b2f",
   "2fc0=9b32.9b3c.9b5a.9ce5.9e75.9e7f.9ea5.9ebb.9ec3.9ecd.9ed1.9ef9",
   "2fcc=9efd.9f0e.9f13.9f20.9f3b.9f4a.9f52.9f8d.9f9c.9fa0 3000=20 3001 3002=2e 3003-3035",
   "3036=3012 3037 3038=5341.5344.5345 303b-303f 3041-3096 3099-309a 309b=20_3099.20_309a",
   "309d-309e 309f=3088_308a 30a0-30fe 30ff=30b3_30c8 3105-312f",
   "3131=1100.1101.11aa.1102.11ac.11ad.1103.1104.1105 313a-313f>11b0",
   "3140=111a.1106.1107.1108.1121 3145-314e>1109 314f-3163>1161 3164!",
   "3165=1114.1115.11c7.11c8.11cc.11ce.11d3.11d7.11d9.111c.11dd.11df",
   "3171=111d.111e.1120.1122.1123.1127.1129 3178-317c>112b",
   "317d=1132.1136.1140.1147.114c.11f1.11f2.1157.1158.1159.1184.1185",
   "3189=1188.1191.1192.1194.119e.11a1 3190-3191",
   "3192=4e00.4e8c.4e09.56db.4e0a.4e2d.4e0b.7532.4e59.4e19.4e01.5929 319e=5730.4eba 31a0-31e5",
   "31f0-31ff 3200=28_1100_29.28_1102_29.28_1103_29.28_1105_29.28_1106_29.28_1107_29",
   "3206=28_1109_29.28_110b_29.28_110c_29.28_110e_29.28_110f_29.28_1110_29",
   "320c=28_1111_29.28_1112_29.28_ac00_29.28_b098_29.28_b2e4_29.28_b77c_29",
   "3212=28_b9c8_29.28_bc14_29.28_c0ac_29.28_c544_29.28_c790_29.28_cc28_29",
   "3218=28_ce74_29.28_d0c0_29.28_d30c_29.28_d558_29.28_c8fc_29.28_c624_c804_29",
   "321e=28_c624_d6c4_29 3220=28_4e00_29.28_4e8c_29.28_4e09_29.28_56db_29.28_4e94_29.28_516d_29",
   "3226=28_4e03_29.28_516b_29.28_4e5d_29.28_5341_29.28_6708_29.28_706b_29",
   "322c=28_6c34_29.28_6728_29.28_91d1_29.28_571f_29.28_65e5_29.28_682a_29",
   "3232=28_6709_29.28_793e_29.28_540d_29.28_7279_29.28_8ca1_29.28_795d_29",
   "3238=28_52b4_29.28_4ee3_29.28_547c_29.28_5b66_29.28_76e3_29.28_4f01_29",
   "323e=28_8cc7_29.28_5354_29.28_796d_29.28_4f11_29.28_81ea_29.28_81f3_29.554f",
   "3245=5e7c.6587.7b8f 3248-324f",
   "3250=70_74_65.32_31.32_32.32_33.32_34.32_35.32_36.32_37.32_38.32_39.33_30",
   "325b=33_31.33_32.33_33.33_34.33_35.1100.1102.1103.1105.1106.1107.1109 3267=110b.110c",
   "3269-326d>110e 326e=ac00.b098.b2e4.b77c.b9c8.bc14.c0ac.c544.c790.cc28.ce74.d0c0",
   "327a=d30c.d558.cc38_ace0.c8fc_c758.c6b0 327f",
   "3280=4e00.4e8c.4e09.56db.4e94.516d.4e03.516b.4e5d.5341.6708.706b",
   "328c=6c34.6728.91d1.571f.65e5.682a.6709.793e.540d.7279.8ca1.795d",
   "3298=52b4.79d8.7537.5973.9069.512a.5370.6ce8.9805.4f11.5199.6b63",
   "32a4=4e0a.4e2d.4e0b.5de6.53f3.533b.5b97.5b66.76e3.4f01.8cc7.5354",
   "32b0=591c.33_36.33_37.33_38.33_39.34_30.34_31.34_32.34_33.34_34.34_35.34_36",
   "32bc=34_37.34_38.34_39.35_30.31_6708.32_6708.33_6708.34_6708.35_6708.36_6708",
   "32c6=37_6708.38_6708.39_6708.31_30_6708.31_31_6708.31_32_6708.68_67.65_72_67",
   "32ce=65_76.6c_74_64.30a2.30a4.30a6.30a8.30aa.30ab.30ad.30af.30b1.30b3",
   "32da=30b5.30b7.30b9.30bb.30bd.30bf.30c1.30c4.30c6.30c8 32e4-32e9>30ca",
   "32ea=30d2.30d5.30d8.30db 32ee-32f2>30de 32f3=30e4.30e6 32f5-32fa>30e8 32fb-32fe>30ef",
   "32ff=4ee4_548c.30a2_30d1_30fc_30c8.30a2_30eb_30d5_30a1.30a2_30f3_30da_30a2",
   "3303=30a2_30fc_30eb.30a4_30cb_30f3_30b0.30a4_30f3_30c1.30a6_30a9_30f3",
   "3307=30a8_30b9_30af_30fc_30c9.30a8_30fc_30ab_30fc.30aa_30f3_30b9",
   "330a=30aa_30fc_30e0.30ab_30a4_30ea.30ab_30e9_30c3_30c8.30ab_30ed_30ea_30fc",
   "330e=30ac_30ed_30f3.30ac_30f3_30de.30ae_30ac.30ae_30cb_30fc",
   "3312=30ad_30e5_30ea_30fc.30ae_30eb_30c0_30fc.30ad_30ed",
   "3315=30ad_30ed_30b0_30e9_30e0.30ad_30ed_30e1_30fc_30c8_30eb",
   "3317=30ad_30ed_30ef_30c3_30c8.30b0_30e9_30e0.30b0_30e9_30e0_30c8_30f3",
   "331a=30af_30eb_30bc_30a4_30ed.30af_30ed_30fc_30cd.30b1_30fc_30b9",
   "331d=30b3_30eb_30ca.30b3_30fc_30dd.30b5_30a4_30af_30eb",
   "3320=30b5_30f3_30c1_30fc_30e0.30b7_30ea_30f3_30b0.30bb_30f3_30c1",
   "3323=30bb_30f3_30c8.30c0_30fc_30b9.30c7_30b7.30c9_30eb.30c8_30f3.30ca_30ce",
   "3329=30ce_30c3_30c8.30cf_30a4_30c4.30d1_30fc_30bb_30f3_30c8.30d1_30fc_30c4",
   "332d=30d0_30fc_30ec_30eb.30d4_30a2_30b9_30c8_30eb.30d4_30af_30eb.30d4_30b3",
   "3331=30d3_30eb.30d5_30a1_30e9_30c3_30c9.30d5_30a3_30fc_30c8",
   "3334=30d6_30c3_30b7_30a7_30eb.30d5_30e9_30f3.30d8_30af_30bf_30fc_30eb",
   "3337=30da_30bd.30da_30cb_30d2.30d8_30eb_30c4.30da_30f3_30b9.30da_30fc_30b8",
   "333c=30d9_30fc_30bf.30dd_30a4_30f3_30c8.30dc_30eb_30c8.30db_30f3",
   "3340=30dd_30f3_30c9.30db_30fc_30eb.30db_30fc_30f3.30de_30a4_30af_30ed",
   "3344=30de_30a4_30eb.30de_30c3_30cf.30de_30eb_30af.30de_30f3_30b7_30e7_30f3",
   "3348=30df_30af_30ed_30f3.30df_30ea.30df_30ea_30d0_30fc_30eb.30e1_30ac",
   "334c=30e1_30ac_30c8_30f3.30e1_30fc_30c8_30eb.30e4_30fc_30c9.30e4_30fc_30eb",
   "3350=30e6_30a2_30f3.30ea_30c3_30c8_30eb.30ea_30e9.30eb_30d4_30fc",
   "3354=30eb_30fc_30d6_30eb.30ec_30e0.30ec_30f3_30c8_30b2_30f3.30ef_30c3_30c8",
   "3358=30_70b9.31_70b9.32_70b9.33_70b9.34_70b9.35_70b9.36_70b9.37_70b9.38_70b9",
   "3361=39_70b9.31_30_70b9.31_31_70b9.31_32_70b9.31_33_70b9.31_34_70b9",
   "3367=31_35_70b9.31_36_70b9.31_37_70b9.31_38_70b9.31_39_70b9.32_30_70b9",
   "336d=32_31_70b9.32_32_70b9.32_33_70b9.32_34_70b9.68_70_61.64_61.61_75",
   "3374=62_61_72.6f_76.70_63.64_6d.64_6d_32.64_6d_33.69_75.5e73_6210.662d_548c",
   "337d=5927_6b63.660e_6cbb.682a_5f0f_4f1a_793e.70_61.6e_61.3bc_61.6d_61.6b_61",
   "3385=6b_62.6d_62.67_62.63_61_6c.6b_63_61_6c.70_66.6e_66.3bc_66.3bc_67.6d_67",
   "338f=6b_67.68_7a.6b_68_7a.6d_68_7a.67_68_7a.74_68_7a.3bc_6c.6d_6c.64_6c.6b_6c",
   "3399=66_6d.6e_6d.3bc_6d.6d_6d.63_6d.6b_6d.6d_6d_32.63_6d_32.6d_32.6b_6d_32",
   "33a3=6d_6d_33.63_6d_33.6d_33.6b_6d_33.6d_2215_73.6d_2215_73_32.70_61.6b_70_61",
   "33ab=6d_70_61.67_70_61.72_61_64.72_61_64_2215_73.72_61_64_2215_73_32.70_73",
   "33b1=6e_73.3bc_73.6d_73.70_76.6e_76.3bc_76.6d_76.6b_76.6d_76.70_77.6e_77",
   "33bc=3bc_77.6d_77.6b_77.6d_77.6b_3c9.6d_3c9 33c3=62_71.63_63.63_64.63_2215_6b_67",
   "33c8=64_62.67_79.68_61.68_70.69_6e.6b_6b.6b_6d.6b_74.6c_6d.6c_6e.6c_6f_67",
   "33d3=6c_78.6d_62.6d_69_6c.6d_6f_6c.70_68",
   "33d9=70_70_6d.70_72.73_72.73_76.77_62.76_2215_6d.61_2215_6d.31_65e5.32_65e5",
   "33e2=33_65e5.34_65e5.35_65e5.36_65e5.37_65e5.38_65e5.39_65e5.31_30_65e5",
   "33ea=31_31_65e5.31_32_65e5.31_33_65e5.31_34_65e5.31_35_65e5.31_36_65e5",
   "33f0=31_37_65e5.31_38_65e5.31_39_65e5.32_30_65e5.32_31_65e5.32_32_65e5",
   "33f6=32_33_65e5.32_34_65e5.32_35_65e5.32_36_65e5.32_37_65e5.32_38_65e5",
   "33fc=32_39_65e5.33_30_65e5.33_31_65e5.67_61_6c 3400-a48c a490-a4c6 a4d0-a62b a640-a66d/",
   "a66e-a67f a680-a69b/ a69c=44a.44c a69e-a6f7 a700-a721 a722-a72f/ a730-a731 a732-a76f/",
   "a770=a76f a771-a778 a779-a77c/ a77d=1d79 a77e-a787/ a788-a78a a78b=a78c a78c a78d=265",
   "a78e-a78f a790-a793/ a794-a795 a796-a7a9/ a7aa=266.25c.261.26c.26a a7af a7b0=29e.287.29d.ab53",
   "a7b4-a7c3/ a7c4=a794.282.1d8e a7c7-a7ca/ a7cb=264 a7cc-a7db/ a7dc=19b a7f1=73.63.66.71",
   "a7f5=a7f6 a7f6-a7f7 a7f8=127.153 a7fa-a82c a830-a839 a840-a877 a880-a8c5 a8ce-a8d9 a8e0-a953",
   "a95f-a97c a980-a9cd a9cf-a9d9 a9de-a9fe aa00-aa36 aa40-aa4d aa50-aa59 aa5c-aac2 aadb-aaf6",
   "ab01-ab06 ab09-ab0e ab11-ab16 ab20-ab26 ab28-ab2e ab30-ab5b ab5c=a727.ab37.26b.ab52 ab60-ab68",
   "ab69=28d ab6a-ab6b ab70-abbf>13a0 abc0-abed abf0-abf9 ac00-d7a3 d7b0-d7c6 d7cb-d7fb",
   "f900=8c48.66f4.8eca.8cc8.6ed1.4e32.53e5.9f9c.9f9c.5951.91d1.5587",
   "f90c=5948.61f6.7669.7f85.863f.87ba.88f8.908f.6a02.6d1b.70d9.73de",
   "f918=843d.916a.99f1.4e82.5375.6b04.721b.862d.9e1e.5d50.6feb.85cd",
   "f924=8964.62c9.81d8.881f.5eca.6717.6d6a.72fc.90ce.4f86.51b7.52de",
   "f930=64c4.6ad3.7210.76e7.8001.8606.865c.8def.9732.9b6f.9dfa.788c",
   "f93c=797f.7da0.83c9.9304.9e7f.8ad6.58df.5f04.7c60.807e.7262.78ca",
   "f948=8cc2.96f7.58d8.5c62.6a13.6dda.6f0f.7d2f.7e37.964b.52d2.808b",
   "f954=51dc.51cc.7a1c.7dbe.83f1.9675.8b80.62cf.6a02.8afe.4e39.5be7",
   "f960=6012.7387.7570.5317.78fb.4fbf.5fa9.4e0d.6ccc.6578.7d22.53c3",
   "f96c=585e.7701.8449.8aaa.6bba.8fb0.6c88.62fe.82e5.63a0.7565.4eae",
   "f978=5169.51c9.6881.7ce7.826f.8ad2.91cf.52f5.5442.5973.5eec.65c5",
   "f984=6ffe.792a.95ad.9a6a.9e97.9ece.529b.66c6.6b77.8f62.5e74.6190",
   "f990=6200.649a.6f23.7149.7489.79ca.7df4.806f.8f26.84ee.9023.934a",
   "f99c=5217.52a3.54bd.70c8.88c2.8aaa.5ec9.5ff5.637b.6bae.7c3e.7375",
   "f9a8=4ee4.56f9.5be7.5dba.601c.73b2.7469.7f9a.8046.9234.96f6.9748",
   "f9b4=9818.4f8b.79ae.91b4.96b8.60e1.4e86.50da.5bee.5c3f.6599.6a02",
   "f9c0=71ce.7642.84fc.907c.9f8d.6688.962e.5289.677b.67f3.6d41.6e9c",
   "f9cc=7409.7559.786b.7d10.985e.516d.622e.9678.502b.5d19.6dea.8f2a",
   "f9d8=5f8b.6144.6817.7387.9686.5229.540f.5c65.6613.674e.68a8.6ce5",
   "f9e4=7406.75e2.7f79.88cf.88e1.91cc.96e2.533f.6eba.541d.71d0.7498",
   "f9f0=85fa.96a3.9c57.9e9f.6797.6dcb.81e8.7acb.7b20.7c92.72c0.7099",
   "f9fc=8b58.4ec0.8336.523a.5207.5ea6.62d3.7cd6.5b85.6d1e.66b4.8f3b",
   "fa08=884c.964d.898b.5ed3.5140.55c0 fa0e-fa0f fa10=585a fa11 fa12=6674 fa13-fa14",
   "fa15=51de.732a.76ca.793c.795e.7965.798f.9756.7cbe.7fbd fa1f fa20=8612 fa21 fa22=8af8",
   "fa23-fa24 fa25=9038.90fd fa27-fa29",
   "fa2a=98ef.98fc.9928.9db4.90de.96b7.4fae.50e7.514d.52c9.52e4.5351",
   "fa36=559d.5606.5668.5840.58a8.5c64.5c6e.6094.6168.618e.61f2.654f",
   "fa42=65e2.6691.6885.6d77.6e1a.6f22.716e.722b.7422.7891.793e.7949",
   "fa4e=7948.7950.7956.795d.798d.798e.7a40.7a81.7bc0.7df4.7e09.7e41",
   "fa5a=7f72.8005.81ed.8279.8279.8457.8910.8996.8b01.8b39.8cd3.8d08",
   "fa66=8fb6.9038.96e3.97ff.983b.6075.242ee.8218",
   "fa70=4e26.51b5.5168.4f80.5145.5180.52c7.52fa.559d.5555.5599.55e2",
   "fa7c=585a.58b3.5944.5954.5a62.5b28.5ed2.5ed9.5f69.5fad.60d8.614e",
   "fa88=6108.618e.6160.61f2.6234.63c4.641c.6452.6556.6674.6717.671b",
   "fa94=6756.6b79.6bba.6d41.6edb.6ecb.6f22.701e.716e.77a7.7235.72af",
   "faa0=732a.7471.7506.753b.761d.761f.76ca.76db.76f4.774a.7740.78cc",
   "faac=7ab1.7bc0.7c7b.7d5b.7df4.7f3e.8005.8352.83ef.8779.8941.8986",
   "fab8=8996.8abf.8af8.8acb.8b01.8afe.8aed.8b39.8b8a.8d08.8f38.9072",
   "fac4=9199.9276.967c.96e3.9756.97db.97ff.980b.983b.9b12.9f9c.2284a",
   "fad0=22844.233d5.3b9d.4018.4039.25249.25cd0.27ed3.9f43.9f8e",
   "fb00=66_66.66_69.66_6c.66_66_69.66_66_6c.73_74.73_74",
   "fb13=574_576.574_565.574_56b.57e_576.574_56d fb1d=5d9_5b4 fb1e",
   "fb1f=5f2_5b7.5e2.5d0.5d3.5d4.5db.5dc.5dd.5e8.5ea.2b.5e9_5c1",
   "fb2b=5e9_5c2.5e9_5bc_5c1.5e9_5bc_5c2.5d0_5b7.5d0_5b8.5d0_5bc.5d1_5bc.5d2_5bc",
   "fb33=5d3_5bc.5d4_5bc.5d5_5bc.5d6_5bc fb38=5d8_5bc.5d9_5bc.5da_5bc.5db_5bc.5dc_5bc",
   "fb3e=5de_5bc fb40=5e0_5bc.5e1_5bc fb43=5e3_5bc.5e4_5bc",
   "fb46=5e6_5bc.5e7_5bc.5e8_5bc.5e9_5bc.5ea_5bc.5d5_5b9.5d1_5bf.5db_5bf.5e4_5bf",
   "fb4f=5d0_5dc.671.671.67b.67b.67b.67b.67e.67e.67e.67e.680",
   "fb5b=680.680.680.67a.67a.67a.67a.67f.67f.67f.67f.679",
   "fb67=679.679.679.6a4.6a4.6a4.6a4.6a6.6a6.6a6.6a6.684",
   "fb73=684.684.684.683.683.683.683.686.686.686.686.687",
   "fb7f=687.687.687.68d.68d.68c.68c.68e.68e.688.688.698",
   "fb8b=698.691.691.6a9.6a9.6a9.6a9.6af.6af.6af.6af.6b3",
   "fb97=6b3.6b3.6b3.6b1.6b1.6b1.6b1.6ba.6ba.6bb.6bb.6bb",
   "fba3=6bb.6c0.6c0.6c1.6c1.6c1.6c1.6be.6be.6be.6be.6d2 fbaf=6d2.6d3.6d3 fbb2-fbd2",
   "fbd3=6ad.6ad.6ad.6ad.6c7.6c7.6c6.6c6.6c8.6c8.6c7_674.6cb",
   "fbdf=6cb.6c5.6c5.6c9.6c9.6d0.6d0.6d0.6d0.649.649.626_627",
   "fbeb=626_627.626_6d5.626_6d5.626_648.626_648.626_6c7.626_6c7.626_6c6.626_6c6",
   "fbf4=626_6c8.626_6c8.626_6d0.626_6d0.626_6d0.626_649.626_649.626_649.6cc.6cc",
   "fbfe=6cc.6cc.626_62c.626_62d.626_645.626_649.626_64a.628_62c.628_62d.628_62e",
   "fc08=628_645.628_649.628_64a.62a_62c.62a_62d.62a_62e.62a_645.62a_649.62a_64a",
   "fc11=62b_62c.62b_645.62b_649.62b_64a.62c_62d.62c_645.62d_62c.62d_645.62e_62c",
   "fc1a=62e_62d.62e_645.633_62c.633_62d.633_62e.633_645.635_62d.635_645.636_62c",
   "fc23=636_62d.636_62e.636_645.637_62d.637_645.638_645.639_62c.639_645.63a_62c",
   "fc2c=63a_645.641_62c.641_62d.641_62e.641_645.641_649.641_64a.642_62d.642_645",
   "fc35=642_649.642_64a.643_627.643_62c.643_62d.643_62e.643_644.643_645.643_649",
   "fc3e=643_64a.644_62c.644_62d.644_62e.644_645.644_649.644_64a.645_62c.645_62d",
   "fc47=645_62e.645_645.645_649.645_64a.646_62c.646_62d.646_62e.646_645.646_649",
   "fc50=646_64a.647_62c.647_645.647_649.647_64a.64a_62c.64a_62d.64a_62e.64a_645",
   "fc59=64a_649.64a_64a.630_670.631_670.649_670.20_64c_651.20_64d_651.20_64e_651",
   "fc61=20_64f_651.20_650_651.20_651_670.626_631.626_632.626_645.626_646.626_649",
   "fc69=626_64a.628_631.628_632.628_645.628_646.628_649.628_64a.62a_631.62a_632",
   "fc72=62a_645.62a_646.62a_649.62a_64a.62b_631.62b_632.62b_645.62b_646.62b_649",
   "fc7b=62b_64a.641_649.641_64a.642_649.642_64a.643_627.643_644.643_645.643_649",
   "fc84=643_64a.644_645.644_649.644_64a.645_627.645_645.646_631.646_632.646_645",
   "fc8d=646_646.646_649.646_64a.649_670.64a_631.64a_632.64a_645.64a_646.64a_649",
   "fc96=64a_64a.626_62c.626_62d.626_62e.626_645.626_647.628_62c.628_62d.628_62e",
   "fc9f=628_645.628_647.62a_62c.62a_62d.62a_62e.62a_645.62a_647.62b_645.62c_62d",
   "fca8=62c_645.62d_62c.62d_645.62e_62c.62e_645.633_62c.633_62d.633_62e.633_645",
   "fcb1=635_62d.635_62e.635_645.636_62c.636_62d.636_62e.636_645.637_62d.638_645",
   "fcba=639_62c.639_645.63a_62c.63a_645.641_62c.641_62d.641_62e.641_645.642_62d",
   "fcc3=642_645.643_62c.643_62d.643_62e.643_644.643_645.644_62c.644_62d.644_62e",
   "fccc=644_645.644_647.645_62c.645_62d.645_62e.645_645.646_62c.646_62d.646_62e",
   "fcd5=646_645.646_647.647_62c.647_645.647_670.64a_62c.64a_62d.64a_62e.64a_645",
   "fcde=64a_647.626_645.626_647.628_645.628_647.62a_645.62a_647.62b_645.62b_647",
   "fce7=633_645.633_647.634_645.634_647.643_644.643_645.644_645.646_645.646_647",
   "fcf0=64a_645.64a_647.640_64e_651.640_64f_651.640_650_651.637_649.637_64a",
   "fcf7=639_649.639_64a.63a_649.63a_64a.633_649.633_64a.634_649.634_64a.62d_649",
   "fd00=62d_64a.62c_649.62c_64a.62e_649.62e_64a.635_649.635_64a.636_649.636_64a",
   "fd09=634_62c.634_62d.634_62e.634_645.634_631.633_631.635_631.636_631.637_649",
   "fd12=637_64a.639_649.639_64a.63a_649.63a_64a.633_649.633_64a.634_649.634_64a",
   "fd1b=62d_649.62d_64a.62c_649.62c_64a.62e_649.62e_64a.635_649.635_64a.636_649",
   "fd24=636_64a.634_62c.634_62d.634_62e.634_645.634_631.633_631.635_631.636_631",
   "fd2d=634_62c.634_62d.634_62e.634_645.633_647.634_647.637_645.633_62c.633_62d",
   "fd36=633_62e.634_62c.634_62d.634_62e.637_645.638_645.627_64b.627_64b fd3e-fd4f",
   "fd50=62a_62c_645.62a_62d_62c.62a_62d_62c.62a_62d_645.62a_62e_645.62a_645_62c",
   "fd56=62a_645_62d.62a_645_62e.62c_645_62d.62c_645_62d.62d_645_64a.62d_645_649",
   "fd5c=633_62d_62c.633_62c_62d.633_62c_649.633_645_62d.633_645_62d.633_645_62c",
   "fd62=633_645_645.633_645_645.635_62d_62d.635_62d_62d.635_645_645.634_62d_645",
   "fd68=634_62d_645.634_62c_64a.634_645_62e.634_645_62e.634_645_645.634_645_645",
   "fd6e=636_62d_649.636_62e_645.636_62e_645.637_645_62d.637_645_62d.637_645_645",
   "fd74=637_645_64a.639_62c_645.639_645_645.639_645_645.639_645_649.63a_645_645",
   "fd7a=63a_645_64a.63a_645_649.641_62e_645.641_62e_645.642_645_62d.642_645_645",
   "fd80=644_62d_645.644_62d_64a.644_62d_649.644_62c_62c.644_62c_62c.644_62e_645",
   "fd86=644_62e_645.644_645_62d.644_645_62d.645_62d_62c.645_62d_645.645_62d_64a",
   "fd8c=645_62c_62d.645_62c_645.645_62e_62c.645_62e_645 fd90-fd91",
   "fd92=645_62c_62e.647_645_62c.647_645_645.646_62d_645.646_62d_649.646_62c_645",
   "fd98=646_62c_645.646_62c_649.646_645_64a.646_645_649.64a_645_645.64a_645_645",
   "fd9e=628_62e_64a.62a_62c_64a.62a_62c_649.62a_62e_64a.62a_62e_649.62a_645_64a",
   "fda4=62a_645_649.62c_645_64a.62c_62d_649.62c_645_649.633_62e_649.635_62d_64a",
   "fdaa=634_62d_64a.636_62d_64a.644_62c_64a.644_645_64a.64a_62d_64a.64a_62c_64a",
   "fdb0=64a_645_64a.645_645_64a.642_645_64a.646_62d_64a.642_645_62d.644_62d_645",
   "fdb6=639_645_64a.643_645_64a.646_62c_62d.645_62e_64a.644_62c_645.643_645_645",
   "fdbc=644_62c_645.646_62c_62d.62c_62d_64a.62d_62c_64a.645_62c_64a.641_645_64a",
   "fdc2=628_62d_64a.643_645_645.639_62c_645.635_645_645.633_62e_64a.646_62c_64a fdc8-fdcf",
   "fdf0=635_644_6d2.642_644_6d2.627_644_644_647.627_643_628_631.645_62d_645_62f",
   "fdf5=635_644_639_645.631_633_648_644.639_644_64a_647.648_633_644_645 fdf9=635_644_649",
   "fdfa=635_644_649_20_627_644_644_647_20_639_644_64a_647_20_648_633_644_645",
   "fdfb=62c_644_20_62c_644_627_644_647.631_6cc_627_644 fdfd-fdff fe00-fe0f! fe10=2c.3001",
   "fe13=3a.3b.21.3f.3016.3017 fe20-fe2f fe31=2014.2013.5f.5f.28.29.7b.7d.3014.3015.3010.3011",
   "fe3d=300a.300b.3008.3009 fe41-fe44>300c fe45-fe46",
   "fe47=5b.5d.20_305.20_305.20_305.20_305.5f.5f.5f.2c.3001",
   "fe54=3b.3a.3f.21.2014.28.29.7b.7d.3014.3015.23 fe60=26.2a.2b.2d.3c.3e.3d fe68=5c.24.25.40",
   "fe70=20_64b.640_64b.20_64c fe73 fe74=20_64d",
   "fe76=20_64e.640_64e.20_64f.640_64f.20_650.640_650.20_651.640_651.20_652",
   "fe7f=640_652.621.622.622.623.623.624.624.625.625.626.626",
   "fe8b=626.626.627.627.628.628.628.628.629.629.62a.62a",
   "fe97=62a.62a.62b.62b.62b.62b.62c.62c.62c.62c.62d.62d",
   "fea3=62d.62d.62e.62e.62e.62e.62f.62f.630.630.631.631",
   "feaf=632.632.633.633.633.633.634.634.634.634.635.635",
   "febb=635.635.636.636.636.636.637.637.637.637.638.638",
   "fec7=638.638.639.639.639.639.63a.63a.63a.63a.641.641",
   "fed3=641.641.642.642.642.642.643.643.643.643.644.644",
   "fedf=644.644.645.645.645.645.646.646.646.646.647.647",
   "feeb=647.647.648.648.649.649.64a.64a.64a.64a.644_622.644_622",
   "fef7=644_623.644_623.644_625.644_625.644_627.644_627 feff! ff01-ff20>21 ff21-ff3a>61",
   "ff3b-ff5e>5b ff5f=2985.2986.2e.300c.300d.3001.30fb.30f2.30a1.30a3.30a5.30a7",
   "ff6b=30a9.30e3.30e5.30e7.30c3.30fc.30a2.30a4.30a6.30a8.30aa.30ab",
   "ff77=30ad.30af.30b1.30b3.30b5.30b7.30b9.30bb.30bd.30bf.30c1.30c4 ff83=30c6.30c8",
   "ff85-ff8a>30ca ff8b=30d2.30d5.30d8.30db ff8f-ff93>30de ff94=30e4.30e6 ff96-ff9b>30e8",
   "ff9c=30ef.30f3.3099.309a ffa0! ffa1=1100.1101.11aa.1102.11ac.11ad.1103.1104.1105",
   "ffaa-ffaf>11b0 ffb0=111a.1106.1107.1108.1121 ffb5-ffbe>1109 ffc2-ffc7>1161 ffca-ffcf>1167",
   "ffd2-ffd7>116d ffda-ffdc>1173 ffe0=a2.a3.ac.20_304.a6.a5.20a9 ffe8=2502 ffe9-ffec>2190",
   "ffed=25a0.25cb 10000-1000b 1000d-10026 10028-1003a 1003c-1003d 1003f-1004d 10050-1005d",
   "10080-100fa 10100-10102 10107-10133 10137-1018e 10190-1019c 101a0 101d0-101fd 10280-1029c",
   "102a0-102d0 102e0-102fb 10300-10323 1032d-1034a 10350-1037a 10380-1039d 1039f-103c3",
   "103c8-103d5 10400-10427>10428 10428-1049d 104a0-104a9 104b0-104d3>104d8 104d8-104fb",
   "10500-10527 10530-10563 1056f 10570-1057a>10597 1057c-1058a>105a3 1058c-10592>105b3",
   "10594=105bb.105bc 10597-105a1 105a3-105b1 105b3-105b9 105bb-105bc 105c0-105f3 10600-10736",
   "10740-10755 10760-10767 10780 10781=2d0.2d1.e6.299.253",
   "10787=2a3.ab66.2a5.2a4.256.257.1d91.258.25e.2a9.264.262",
   "10793=260.29b.127.29c.267.284.2aa.2ab.26c.1df04.a78e.26e",
   "1079f=1df05.28e.1df06.f8.276.277.71.27a.1df08.27d.27e.280 107ab=2a8.2a6.ab67.2a7.288.2c71",
   "107b2=28f.2a1.2a2.298.1c0.1c1.1c2.1df0a.1df1e 10800-10805 10808 1080a-10835 10837-10838 1083c",
   "1083f-10855 10857-1089e 108a7-108af 108e0-108f2 108f4-108f5 108fb-1091b 1091f-10939",
   "1093f-10959 10980-109b7 109bc-109cf 109d2-10a03 10a05-10a06 10a0c-10a13 10a15-10a17",
   "10a19-10a35 10a38-10a3a 10a3f-10a48 10a50-10a58 10a60-10a9f 10ac0-10ae6 10aeb-10af6",
   "10b00-10b35 10b39-10b55 10b58-10b72 10b78-10b91 10b99-10b9c 10ba9-10baf 10c00-10c48",
   "10c80-10cb2>10cc0 10cc0-10cf2 10cfa-10d27 10d30-10d39 10d40-10d4f 10d50-10d65>10d70",
   "10d69-10d85 10d8e-10d8f 10e60-10e7e 10e80-10ea9 10eab-10ead 10eb0-10eb1 10ec2-10ec7",
   "10ed0-10ed8 10efa-10f27 10f30-10f59 10f70-10f89 10fb0-10fcb 10fe0-10ff6 11000-1104d",
   "11052-11075 1107f-110bc 110be-110c2 110d0-110e8 110f0-110f9 11100-11134 11136-11147",
   "11150-11176 11180-111df 111e1-111f4 11200-11211 11213-11241 11280-11286 11288 1128a-1128d",
   "1128f-1129d 1129f-112a9 112b0-112ea 112f0-112f9 11300-11303 11305-1130c 1130f-11310",
   "11313-11328 1132a-11330 11332-11333 11335-11339 1133b-11344 11347-11348 1134b-1134d 11350",
   "11357 1135d-11363 11366-1136c 11370-11374 11380-11389 1138b 1138e 11390-113b5 113b7-113c0",
   "113c2 113c5 113c7-113ca 113cc-113d5 113d7-113d8 113e1-113e2 11400-1145b 1145d-11461",
   "11480-114c7 114d0-114d9 11580-115b5 115b8-115dd 11600-11644 11650-11659 11660-1166c",
   "11680-116b9 116c0-116c9 116d0-116e3 11700-1171a 1171d-1172b 11730-11746 11800-1183b",
   "118a0-118bf>118c0 118c0-118f2 118ff-11906 11909 1190c-11913 11915-11916 11918-11935",
   "11937-11938 1193b-11946 11950-11959 119a0-119a7 119aa-119d7 119da-119e4 11a00-11a47",
   "11a50-11aa2 11ab0-11af8 11b00-11b09 11b60-11b67 11bc0-11be1 11bf0-11bf9 11c00-11c08",
   "11c0a-11c36 11c38-11c45 11c50-11c6c 11c70-11c8f 11c92-11ca7 11ca9-11cb6 11d00-11d06",
   "11d08-11d09 11d0b-11d36 11d3a 11d3c-11d3d 11d3f-11d47 11d50-11d59 11d60-11d65 11d67-11d68",
   "11d6a-11d8e 11d90-11d91 11d93-11d98 11da0-11da9 11db0-11ddb 11de0-11de9 11ee0-11ef8",
   "11f00-11f10 11f12-11f3a 11f3e-11f5a 11fb0 11fc0-11ff1 11fff-12399 12400-1246e 12470-12474",
   "12480-12543 12f90-12ff2 13000-1342f 13440-13455 13460-143fa 14400-14646 16100-16139",
   "16800-16a38 16a40-16a5e 16a60-16a69 16a6e-16abe 16ac0-16ac9 16ad0-16aed 16af0-16af5",
   "16b00-16b45 16b50-16b59 16b5b-16b61 16b63-16b77 16b7d-16b8f 16d40-16d79 16e40-16e5f>16e60",
   "16e60-16e9a 16ea0-16eb8>16ebb 16ebb-16ed3 16f00-16f4a 16f4f-16f87 16f8f-16f9f 16fe0-16fe4",
   "16ff0-16ff6 17000-18cd5 18cff-18d1e 18d80-18df2 1aff0-1aff3 1aff5-1affb 1affd-1affe",
   "1b000-1b122 1b132 1b150-1b152 1b155 1b164-1b167 1b170-1b2fb 1bc00-1bc6a 1bc70-1bc7c",
   "1bc80-1bc88 1bc90-1bc99 1bc9c-1bc9f 1bca0-1bca3! 1cc00-1ccd5 1ccd6-1ccef>61 1ccf0-1ccf9>30",
   "1ccfa-1ccfc 1cd00-1ceb3 1ceba-1ced0 1cee0-1cef0 1cf00-1cf2d 1cf30-1cf46 1cf50-1cfc3",
   "1d000-1d0f5 1d100-1d126 1d129-1d15d",
   "1d15e=1d157_1d165.1d158_1d165.1d158_1d165_1d16e.1d158_1d165_1d16f",
   "1d162=1d158_1d165_1d170.1d158_1d165_1d171.1d158_1d165_1d172 1d165-1d172 1d173-1d17a!",
   "1d17b-1d1ba 1d1bb=1d1b9_1d165.1d1ba_1d165.1d1b9_1d165_1d16e.1d1ba_1d165_1d16e",
   "1d1bf=1d1b9_1d165_1d16f.1d1ba_1d165_1d16f 1d1c1-1d1ea 1d200-1d245 1d2c0-1d2d3 1d2e0-1d2f3",
   "1d300-1d356 1d360-1d378 1d400-1d419>61 1d41a-1d433>61 1d434-1d44d>61 1d44e-1d454>61",
   "1d456-1d467>69 1d468-1d481>61 1d482-1d49b>61 1d49c=61 1d49e=63.64 1d4a2=67 1d4a5=6a.6b",
   "1d4a9-1d4ac>6e 1d4ae-1d4b5>73 1d4b6-1d4b9>61 1d4bb=66 1d4bd-1d4c3>68 1d4c5-1d4cf>70",
   "1d4d0-1d4e9>61 1d4ea-1d503>61 1d504=61.62 1d507-1d50a>64 1d50d-1d514>6a 1d516-1d51c>73",
   "1d51e-1d537>61 1d538=61.62 1d53b-1d53e>64 1d540-1d544>69 1d546=6f 1d54a-1d550>73",
   "1d552-1d56b>61 1d56c-1d585>61 1d586-1d59f>61 1d5a0-1d5b9>61 1d5ba-1d5d3>61 1d5d4-1d5ed>61",
   "1d5ee-1d607>61 1d608-1d621>61 1d622-1d63b>61 1d63c-1d655>61 1d656-1d66f>61 1d670-1d689>61",
   "1d68a-1d6a3>61 1d6a4=131.237 1d6a8-1d6b8>3b1 1d6b9=3b8 1d6ba-1d6c0>3c3 1d6c1=2207",
   "1d6c2-1d6d2>3b1 1d6d3=3c3 1d6d4-1d6da>3c3 1d6db=2202.3b5.3b8.3ba.3c6.3c1.3c0 1d6e2-1d6f2>3b1",
   "1d6f3=3b8 1d6f4-1d6fa>3c3 1d6fb=2207 1d6fc-1d70c>3b1 1d70d=3c3 1d70e-1d714>3c3",
   "1d715=2202.3b5.3b8.3ba.3c6.3c1.3c0 1d71c-1d72c>3b1 1d72d=3b8 1d72e-1d734>3c3 1d735=2207",
   "1d736-1d746>3b1 1d747=3c3 1d748-1d74e>3c3 1d74f=2202.3b5.3b8.3ba.3c6.3c1.3c0 1d756-1d766>3b1",
   "1d767=3b8 1d768-1d76e>3c3 1d76f=2207 1d770-1d780>3b1 1d781=3c3 1d782-1d788>3c3",
   "1d789=2202.3b5.3b8.3ba.3c6.3c1.3c0 1d790-1d7a0>3b1 1d7a1=3b8 1d7a2-1d7a8>3c3 1d7a9=2207",
   "1d7aa-1d7ba>3b1 1d7bb=3c3 1d7bc-1d7c2>3c3 1d7c3=2202.3b5.3b8.3ba.3c6.3c1.3c0.3dd.3dd",
   "1d7ce-1d7d7>30 1d7d8-1d7e1>30 1d7e2-1d7eb>30 1d7ec-1d7f5>30 1d7f6-1d7ff>30 1d800-1da8b",
   "1da9b-1da9f 1daa1-1daaf 1df00-1df1e 1df25-1df2a 1e000-1e006 1e008-1e018 1e01b-1e021",
   "1e023-1e024 1e026-1e02a 1e030-1e038>430 1e039-1e03b>43a 1e03c-1e046>43e",
   "1e047=44b.44d.44e.a689.4d9.456.458.4e9.4af.4cf 1e051-1e059>430 1e05a=43a.43b.43e.43f.441",
   "1e05f-1e064>443 1e065=44a.44b.491.456.455.45f.4ab.a651.4b1 1e08f 1e100-1e12c 1e130-1e13d",
   "1e140-1e149 1e14e-1e14f 1e290-1e2ae 1e2c0-1e2f9 1e2ff 1e4d0-1e4f9 1e5d0-1e5fa 1e5ff",
   "1e6c0-1e6de 1e6e0-1e6f5 1e6fe-1e6ff 1e7e0-1e7e6 1e7e8-1e7eb 1e7ed-1e7ee 1e7f0-1e7fe",
   "1e800-1e8c4 1e8c7-1e8d6 1e900-1e921>1e922 1e922-1e94b 1e950-1e959 1e95e-1e95f 1ec71-1ecb4",
   "1ed01-1ed3d 1ee00=627.628.62c.62f 1ee05=648.632.62d.637.64a 1ee0a-1ee0d>643",
   "1ee0e=633.639.641.635.642.631.634.62a.62b.62e.630.636 1ee1a=638.63a.66e.6ba.6a1.66f",
   "1ee21=628.62c 1ee24=647 1ee27=62d 1ee29=64a 1ee2a-1ee2d>643 1ee2e=633.639.641.635.642",
   "1ee34=634.62a.62b.62e 1ee39=636 1ee3b=63a 1ee42=62c 1ee47=62d 1ee49=64a 1ee4b=644",
   "1ee4d=646.633.639 1ee51=635.642 1ee54=634 1ee57=62e 1ee59=636 1ee5b=63a 1ee5d=6ba 1ee5f=66f",
   "1ee61=628.62c 1ee64=647 1ee67=62d.637.64a.643 1ee6c=645.646.633.639.641.635.642",
   "1ee74=634.62a.62b.62e 1ee79=636.638.63a.66e 1ee7e=6a1",
   "1ee80=627.628.62c.62f.647.648.632.62d.637.64a 1ee8b-1ee8d>644",
   "1ee8e=633.639.641.635.642.631.634.62a.62b.62e.630.636 1ee9a=638.63a 1eea1=628.62c.62f",
   "1eea5=648.632.62d.637.64a 1eeab-1eead>644",
   "1eeae=633.639.641.635.642.631.634.62a.62b.62e.630.636 1eeba=638.63a 1eef0-1eef1 1f000-1f02b",
   "1f030-1f093 1f0a0-1f0ae 1f0b1-1f0bf 1f0c1-1f0cf 1f0d1-1f0f5",
   "1f101=30_2c.31_2c.32_2c.33_2c.34_2c.35_2c.36_2c.37_2c.38_2c.39_2c 1f10b-1f10f",
   "1f110=28_61_29.28_62_29.28_63_29.28_64_29.28_65_29.28_66_29.28_67_29.28_68_29",
   "1f118=28_69_29.28_6a_29.28_6b_29.28_6c_29.28_6d_29.28_6e_29.28_6f_29.28_70_29",
   "1f120=28_71_29.28_72_29.28_73_29.28_74_29.28_75_29.28_76_29.28_77_29.28_78_29",
   "1f128=28_79_29.28_7a_29.3014_73_3015.63.72.63_64.77_7a 1f12f 1f130-1f149>61",
   "1f14a=68_76.6d_76.73_64.73_73.70_70_76.77_63 1f150-1f169 1f16a=6d_63.6d_64.6d_72 1f16d-1f18f",
   "1f190=64_6a 1f191-1f1ad 1f1e6-1f1ff 1f200=307b_304b.30b3_30b3.30b5",
   "1f210=624b.5b57.53cc.30c7.4e8c.591a.89e3.5929.4ea4.6620.7121.6599",
   "1f21c=524d.5f8c.518d.65b0.521d.7d42.751f.8ca9.58f0.5439.6f14.6295",
   "1f228=6355.4e00.4e09.904a.5de6.4e2d.53f3.6307.8d70.6253.7981.7a7a",
   "1f234=5408.6e80.6709.6708.7533.5272.55b6.914d",
   "1f240=3014_672c_3015.3014_4e09_3015.3014_4e8c_3015.3014_5b89_3015",
   "1f244=3014_70b9_3015.3014_6253_3015.3014_76d7_3015.3014_52dd_3015 1f248=3014_6557_3015",
   "1f250=5f97.53ef 1f260-1f265 1f300-1f6d8 1f6dc-1f6ec 1f6f0-1f6fc 1f700-1f7d9 1f7e0-1f7eb 1f7f0",
   "1f800-1f80b 1f810-1f847 1f850-1f859 1f860-1f887 1f890-1f8ad 1f8b0-1f8bb 1f8c0-1f8c1",
   "1f8d0-1f8d8 1f900-1fa57 1fa60-1fa6d 1fa70-1fa7c 1fa80-1fa8a 1fa8e-1fac6 1fac8 1facd-1fadc",
   "1fadf-1faea 1faef-1faf8 1fb00-1fb92 1fb94-1fbef 1fbf0-1fbf9>30 1fbfa 20000-2a6df 2a700-2b81d",
   "2b820-2cead 2ceb0-2ebe0 2ebf0-2ee5d",
   "2f800=4e3d.4e38.4e41.20122.4f60.4fae.4fbb.5002.507a.5099.50e7.50cf",
   "2f80c=349e.2063a.514d.5154.5164.5177.2051c.34b9.5167.518d.2054b.5197",
   "2f818=51a4.4ecc.51ac.51b5.291df.51f5.5203.34df.523b.5246.5272.5277",
   "2f824=3515.52c7.52c9.52e4.52fa.5305.5306.5317.5349.5351.535a.5373",
   "2f830=537d.537f.537f.537f.20a2c.7070.53ca.53df.20b63.53eb.53f1.5406",
   "2f83c=549e.5438.5448.5468.54a2.54f6.5510.5553.5563.5584.5584.5599",
   "2f848=55ab.55b3.55c2.5716.5606.5717.5651.5674.5207.58ee.57ce.57f4",
   "2f854=580d.578b.5832.5831.58ac.214e4.58f2.58f7.5906.591a.5922.5962",
   "2f860=216a8.216ea.59ec.5a1b.5a27.59d8.5a66.36ee.36fc.5b08.5b3e.5b3e",
   "2f86c=219c8.5bc3.5bd8.5be7.5bf3.21b18.5bff.5c06.5f53.5c22.3781.5c60",
   "2f878=5c6e.5cc0.5c8d.21de4.5d43.21de6.5d6e.5d6b.5d7c.5de1.5de2.382f",
   "2f884=5dfd.5e28.5e3d.5e69.3862.22183.387c.5eb0.5eb3.5eb6.5eca.2a392",
   "2f890=5efe.22331.22331.8201.5f22.5f22.38c7.232b8.261da.5f62.5f6b.38e3",
   "2f89c=5f9a.5fcd.5fd7.5ff9.6081.393a.391c.6094.226d4.60c7.6148.614c",
   "2f8a8=614e.614c.617a.618e.61b2.61a4.61af.61de.61f2.61f6.6210.621b",
   "2f8b4=625d.62b1.62d4.6350.22b0c.633d.62fc.6368.6383.63e4.22bf1.6422",
   "2f8c0=63c5.63a9.3a2e.6469.647e.649d.6477.3a6c.654f.656c.2300a.65e3",
   "2f8cc=66f8.6649.3b19.6691.3b08.3ae4.5192.5195.6700.669c.80ad.43d9",
   "2f8d8=6717.671b.6721.675e.6753.233c3.3b49.67fa.6785.6852.6885.2346d",
   "2f8e4=688e.681f.6914.3b9d.6942.69a3.69ea.6aa8.236a3.6adb.3c18.6b21",
   "2f8f0=238a7.6b54.3c4e.6b72.6b9f.6bba.6bbb.23a8d.21d0b.23afa.6c4e.23cbc",
   "2f8fc=6cbf.6ccd.6c67.6d16.6d3e.6d77.6d41.6d69.6d78.6d85.23d1e.6d34",
   "2f908=6e2f.6e6e.3d33.6ecb.6ec7.23ed1.6df9.6f6e.23f5e.23f8e.6fc6.7039",
   "2f914=701e.701b.3d96.704a.707d.7077.70ad.20525.7145.24263.719c.243ab",
   "2f920=7228.7235.7250.24608.7280.7295.24735.24814.737a.738b.3eac.73a5",
   "2f92c=3eb8.3eb8.7447.745c.7471.7485.74ca.3f1b.7524.24c36.753e.24c92",
   "2f938=7570.2219f.7610.24fa1.24fb8.25044.3ffc.4008.76f4.250f3.250f2.25119",
   "2f944=25133.771e.771f.771f.774a.4039.778b.4046.4096.2541d.784e.788c",
   "2f950=78cc.40e3.25626.7956.2569a.256c5.798f.79eb.412f.7a40.7a4a.7a4f",
   "2f95c=2597c.25aa7.25aa7.7aee.4202.25bab.7bc6.7bc9.4227.25c80.7cd2.42a0",
   "2f968=7ce8.7ce3.7d00.25f86.7d63.4301.7dc7.7e02.7e45.4334.26228.26247",
   "2f974=4359.262d9.7f7a.2633e.7f95.7ffa.8005.264da.26523.8060.265a8.8070",
   "2f980=2335f.43d5.80b2.8103.440b.813e.5ab5.267a7.267b5.23393.2339c.8201",
   "2f98c=8204.8f9e.446b.8291.828b.829d.52b3.82b1.82b3.82bd.82e6.26b3c",
   "2f998=82e5.831d.8363.83ad.8323.83bd.83e7.8457.8353.83ca.83cc.83dc",
   "2f9a4=26c36.26d6b.26cd5.452b.84f1.84f3.8516.273ca.8564.26f2c.455d.4561",
   "2f9b0=26fb1.270d2.456b.8650.865c.8667.8669.86a9.8688.870e.86e2.8779",
   "2f9bc=8728.876b.8786.45d7.87e1.8801.45f9.8860.8863.27667.88d7.88de",
   "2f9c8=4635.88fa.34bb.278ae.27966.46be.46c7.8aa0.8aed.8b8a.8c55.27ca8",
   "2f9d4=8cab.8cc1.8d1b.8d77.27f2f.20804.8dcb.8dbc.8df0.208de.8ed4.8f38",
   "2f9e0=285d2.285ed.9094.90f1.9111.2872e.911b.9238.92d7.92d8.927c.93f9",
   "2f9ec=9415.28bfa.958b.4995.95b7.28d77.49e6.96c3.5db2.9723.29145.2921a",
   "2f9f8=4a6e.4a76.97e0.2940a.4ab2.29496.980b.980b.9829.295b6.98e2.4b33",
   "2fa04=9929.99a7.99c2.99fe.4bce.29b30.9b12.9c40.9cfd.4cce.4ced.9d67",
   "2fa10=2a0ce.4cf8.2a105.2a20e.2a291.9ebb.4d56.9ef9.9efe.9f05.9f0f.9f16 2fa1c=9f3b.2a600",
   "30000-3134a 31350-33479 e0100-e01ef!"]).map Entry.ofWord

/-- The entry of a character. -/
def entryOf? (c : Char) : Option Entry :=
  entries.find? fun e => e.first ≤ c.toNat && c.toNat ≤ e.last

/-- What a character is replaced by, if it may stand in a name. -/
def replace? (c : Char) : Option (List Char) :=
  (entryOf? c).map fun e => (e.replace c.toNat).map Char.ofNat

/-- Whether a character may stand in a name and stands for itself there. -/
def isValid (c : Char) : Bool := replace? c == some [c]

end IndexKeeper.Domain
