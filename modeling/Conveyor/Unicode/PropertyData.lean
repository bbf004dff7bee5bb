/-!
# Character properties for domain name labels

From the Unicode Character Database, as ranges of code points in hexadecimal
(`first-last`, with a value after a colon where there is one), separated by semicolons:
- the combining marks (general category `Mn`, `Mc` or `Me`; Unicode 15.0);
- the bidirectional class of every code point whose class is not `L` (Unicode 15.0);
- the joining type of the code points that have one (`C`, `D`, `L`, `R` or `T`; Unicode
  17.0); every other code point does not join.
-/

namespace Conveyor
namespace Unicode

/-- The ranges of combining marks. -/
def markText : String :=
  String.join [
    "300-36f;483-489;591-5bd;5bf-5bf;5c1-5c2;5c4-5c5;5c7-5c7;610-61a;64b-65f;670-670;6d6-6dc;6df-6e4;",
    "6e7-6e8;6ea-6ed;711-711;730-74a;7a6-7b0;7eb-7f3;7fd-7fd;816-819;81b-823;825-827;829-82d;859-85b;",
    "898-89f;8ca-8e1;8e3-903;93a-93c;93e-94f;951-957;962-963;981-983;9bc-9bc;9be-9c4;9c7-9c8;9cb-9cd;",
    "9d7-9d7;9e2-9e3;9fe-9fe;a01-a03;a3c-a3c;a3e-a42;a47-a48;a4b-a4d;a51-a51;a70-a71;a75-a75;a81-a83;",
    "abc-abc;abe-ac5;ac7-ac9;acb-acd;ae2-ae3;afa-aff;b01-b03;b3c-b3c;b3e-b44;b47-b48;b4b-b4d;b55-b57;",
    "b62-b63;b82-b82;bbe-bc2;bc6-bc8;bca-bcd;bd7-bd7;c00-c04;c3c-c3c;c3e-c44;c46-c48;c4a-c4d;c55-c56;",
    "c62-c63;c81-c83;cbc-cbc;cbe-cc4;cc6-cc8;cca-ccd;cd5-cd6;ce2-ce3;cf3-cf3;d00-d03;d3b-d3c;d3e-d44;",
    "d46-d48;d4a-d4d;d57-d57;d62-d63;d81-d83;dca-dca;dcf-dd4;dd6-dd6;dd8-ddf;df2-df3;e31-e31;e34-e3a;",
    "e47-e4e;eb1-eb1;eb4-ebc;ec8-ece;f18-f19;f35-f35;f37-f37;f39-f39;f3e-f3f;f71-f84;f86-f87;f8d-f97;",
    "f99-fbc;fc6-fc6;102b-103e;1056-1059;105e-1060;1062-1064;1067-106d;1071-1074;1082-108d;108f-108f;",
    "109a-109d;135d-135f;1712-1715;1732-1734;1752-1753;1772-1773;17b4-17d3;17dd-17dd;180b-180d;180f-1",
    "80f;1885-1886;18a9-18a9;1920-192b;1930-193b;1a17-1a1b;1a55-1a5e;1a60-1a7c;1a7f-1a7f;1ab0-1ace;1b",
    "00-1b04;1b34-1b44;1b6b-1b73;1b80-1b82;1ba1-1bad;1be6-1bf3;1c24-1c37;1cd0-1cd2;1cd4-1ce8;1ced-1ce",
    "d;1cf4-1cf4;1cf7-1cf9;1dc0-1dff;20d0-20f0;2cef-2cf1;2d7f-2d7f;2de0-2dff;302a-302f;3099-309a;a66f",
    "-a672;a674-a67d;a69e-a69f;a6f0-a6f1;a802-a802;a806-a806;a80b-a80b;a823-a827;a82c-a82c;a880-a881;",
    "a8b4-a8c5;a8e0-a8f1;a8ff-a8ff;a926-a92d;a947-a953;a980-a983;a9b3-a9c0;a9e5-a9e5;aa29-aa36;aa43-a",
    "a43;aa4c-aa4d;aa7b-aa7d;aab0-aab0;aab2-aab4;aab7-aab8;aabe-aabf;aac1-aac1;aaeb-aaef;aaf5-aaf6;ab",
    "e3-abea;abec-abed;fb1e-fb1e;fe00-fe0f;fe20-fe2f;101fd-101fd;102e0-102e0;10376-1037a;10a01-10a03;",
    "10a05-10a06;10a0c-10a0f;10a38-10a3a;10a3f-10a3f;10ae5-10ae6;10d24-10d27;10eab-10eac;10efd-10eff;",
    "10f46-10f50;10f82-10f85;11000-11002;11038-11046;11070-11070;11073-11074;1107f-11082;110b0-110ba;",
    "110c2-110c2;11100-11102;11127-11134;11145-11146;11173-11173;11180-11182;111b3-111c0;111c9-111cc;",
    "111ce-111cf;1122c-11237;1123e-1123e;11241-11241;112df-112ea;11300-11303;1133b-1133c;1133e-11344;",
    "11347-11348;1134b-1134d;11357-11357;11362-11363;11366-1136c;11370-11374;11435-11446;1145e-1145e;",
    "114b0-114c3;115af-115b5;115b8-115c0;115dc-115dd;11630-11640;116ab-116b7;1171d-1172b;1182c-1183a;",
    "11930-11935;11937-11938;1193b-1193e;11940-11940;11942-11943;119d1-119d7;119da-119e0;119e4-119e4;",
    "11a01-11a0a;11a33-11a39;11a3b-11a3e;11a47-11a47;11a51-11a5b;11a8a-11a99;11c2f-11c36;11c38-11c3f;",
    "11c92-11ca7;11ca9-11cb6;11d31-11d36;11d3a-11d3a;11d3c-11d3d;11d3f-11d45;11d47-11d47;11d8a-11d8e;",
    "11d90-11d91;11d93-11d97;11ef3-11ef6;11f00-11f01;11f03-11f03;11f34-11f3a;11f3e-11f42;13440-13440;",
    "13447-13455;16af0-16af4;16b30-16b36;16f4f-16f4f;16f51-16f87;16f8f-16f92;16fe4-16fe4;16ff0-16ff1;",
    "1bc9d-1bc9e;1cf00-1cf2d;1cf30-1cf46;1d165-1d169;1d16d-1d172;1d17b-1d182;1d185-1d18b;1d1aa-1d1ad;",
    "1d242-1d244;1da00-1da36;1da3b-1da6c;1da75-1da75;1da84-1da84;1da9b-1da9f;1daa1-1daaf;1e000-1e006;",
    "1e008-1e018;1e01b-1e021;1e023-1e024;1e026-1e02a;1e08f-1e08f;1e130-1e136;1e2ae-1e2ae;1e2ec-1e2ef;",
    "1e4ec-1e4ef;1e8d0-1e8d6;1e944-1e94a;e0100-e01ef"]

/-- Bidirectional classes other than left-to-right, by range. -/
def bidiClassText : String :=
  String.join [
    "0-8:BN;9-9:S;a-a:B;b-b:S;c-c:WS;d-d:B;e-1b:BN;1c-1e:B;1f-1f:S;20-20:WS;21-22:ON;23-25:ET;26-2a:O",
    "N;2b-2b:ES;2c-2c:CS;2d-2d:ES;2e-2f:CS;30-39:EN;3a-3a:CS;3b-40:ON;5b-60:ON;7b-7e:ON;7f-84:BN;85-8",
    "5:B;86-9f:BN;a0-a0:CS;a1-a1:ON;a2-a5:ET;a6-a9:ON;ab-ac:ON;ad-ad:BN;ae-af:ON;b0-b1:ET;b2-b3:EN;b4",
    "-b4:ON;b6-b8:ON;b9-b9:EN;bb-bf:ON;d7-d7:ON;f7-f7:ON;2b9-2ba:ON;2c2-2cf:ON;2d2-2df:ON;2e5-2ed:ON;",
    "2ef-2ff:ON;300-36f:NSM;374-375:ON;37e-37e:ON;384-385:ON;387-387:ON;3f6-3f6:ON;483-489:NSM;58a-58",
    "a:ON;58d-58e:ON;58f-58f:ET;591-5bd:NSM;5be-5be:R;5bf-5bf:NSM;5c0-5c0:R;5c1-5c2:NSM;5c3-5c3:R;5c4",
    "-5c5:NSM;5c6-5c6:R;5c7-5c7:NSM;5d0-5ea:R;5ef-5f4:R;600-605:AN;606-607:ON;608-608:AL;609-60a:ET;6",
    "0b-60b:AL;60c-60c:CS;60d-60d:AL;60e-60f:ON;610-61a:NSM;61b-64a:AL;64b-65f:NSM;660-669:AN;66a-66a",
    ":ET;66b-66c:AN;66d-66f:AL;670-670:NSM;671-6d5:AL;6d6-6dc:NSM;6dd-6dd:AN;6de-6de:ON;6df-6e4:NSM;6",
    "e5-6e6:AL;6e7-6e8:NSM;6e9-6e9:ON;6ea-6ed:NSM;6ee-6ef:AL;6f0-6f9:EN;6fa-70d:AL;70f-710:AL;711-711",
    ":NSM;712-72f:AL;730-74a:NSM;74d-7a5:AL;7a6-7b0:NSM;7b1-7b1:AL;7c0-7ea:R;7eb-7f3:NSM;7f4-7f5:R;7f",
    "6-7f9:ON;7fa-7fa:R;7fd-7fd:NSM;7fe-815:R;816-819:NSM;81a-81a:R;81b-823:NSM;824-824:R;825-827:NSM",
    ";828-828:R;829-82d:NSM;830-83e:R;840-858:R;859-85b:NSM;85e-85e:R;860-86a:AL;870-88e:AL;890-891:A",
    "N;898-89f:NSM;8a0-8c9:AL;8ca-8e1:NSM;8e2-8e2:AN;8e3-902:NSM;93a-93a:NSM;93c-93c:NSM;941-948:NSM;",
    "94d-94d:NSM;951-957:NSM;962-963:NSM;981-981:NSM;9bc-9bc:NSM;9c1-9c4:NSM;9cd-9cd:NSM;9e2-9e3:NSM;",
    "9f2-9f3:ET;9fb-9fb:ET;9fe-9fe:NSM;a01-a02:NSM;a3c-a3c:NSM;a41-a42:NSM;a47-a48:NSM;a4b-a4d:NSM;a5",
    "1-a51:NSM;a70-a71:NSM;a75-a75:NSM;a81-a82:NSM;abc-abc:NSM;ac1-ac5:NSM;ac7-ac8:NSM;acd-acd:NSM;ae",
    "2-ae3:NSM;af1-af1:ET;afa-aff:NSM;b01-b01:NSM;b3c-b3c:NSM;b3f-b3f:NSM;b41-b44:NSM;b4d-b4d:NSM;b55",
    "-b56:NSM;b62-b63:NSM;b82-b82:NSM;bc0-bc0:NSM;bcd-bcd:NSM;bf3-bf8:ON;bf9-bf9:ET;bfa-bfa:ON;c00-c0",
    "0:NSM;c04-c04:NSM;c3c-c3c:NSM;c3e-c40:NSM;c46-c48:NSM;c4a-c4d:NSM;c55-c56:NSM;c62-c63:NSM;c78-c7",
    "e:ON;c81-c81:NSM;cbc-cbc:NSM;ccc-ccd:NSM;ce2-ce3:NSM;d00-d01:NSM;d3b-d3c:NSM;d41-d44:NSM;d4d-d4d",
    ":NSM;d62-d63:NSM;d81-d81:NSM;dca-dca:NSM;dd2-dd4:NSM;dd6-dd6:NSM;e31-e31:NSM;e34-e3a:NSM;e3f-e3f",
    ":ET;e47-e4e:NSM;eb1-eb1:NSM;eb4-ebc:NSM;ec8-ece:NSM;f18-f19:NSM;f35-f35:NSM;f37-f37:NSM;f39-f39:",
    "NSM;f3a-f3d:ON;f71-f7e:NSM;f80-f84:NSM;f86-f87:NSM;f8d-f97:NSM;f99-fbc:NSM;fc6-fc6:NSM;102d-1030",
    ":NSM;1032-1037:NSM;1039-103a:NSM;103d-103e:NSM;1058-1059:NSM;105e-1060:NSM;1071-1074:NSM;1082-10",
    "82:NSM;1085-1086:NSM;108d-108d:NSM;109d-109d:NSM;135d-135f:NSM;1390-1399:ON;1400-1400:ON;1680-16",
    "80:WS;169b-169c:ON;1712-1714:NSM;1732-1733:NSM;1752-1753:NSM;1772-1773:NSM;17b4-17b5:NSM;17b7-17",
    "bd:NSM;17c6-17c6:NSM;17c9-17d3:NSM;17db-17db:ET;17dd-17dd:NSM;17f0-17f9:ON;1800-180a:ON;180b-180",
    "d:NSM;180e-180e:BN;180f-180f:NSM;1885-1886:NSM;18a9-18a9:NSM;1920-1922:NSM;1927-1928:NSM;1932-19",
    "32:NSM;1939-193b:NSM;1940-1940:ON;1944-1945:ON;19de-19ff:ON;1a17-1a18:NSM;1a1b-1a1b:NSM;1a56-1a5",
    "6:NSM;1a58-1a5e:NSM;1a60-1a60:NSM;1a62-1a62:NSM;1a65-1a6c:NSM;1a73-1a7c:NSM;1a7f-1a7f:NSM;1ab0-1",
    "ace:NSM;1b00-1b03:NSM;1b34-1b34:NSM;1b36-1b3a:NSM;1b3c-1b3c:NSM;1b42-1b42:NSM;1b6b-1b73:NSM;1b80",
    "-1b81:NSM;1ba2-1ba5:NSM;1ba8-1ba9:NSM;1bab-1bad:NSM;1be6-1be6:NSM;1be8-1be9:NSM;1bed-1bed:NSM;1b",
    "ef-1bf1:NSM;1c2c-1c33:NSM;1c36-1c37:NSM;1cd0-1cd2:NSM;1cd4-1ce0:NSM;1ce2-1ce8:NSM;1ced-1ced:NSM;",
    "1cf4-1cf4:NSM;1cf8-1cf9:NSM;1dc0-1dff:NSM;1fbd-1fbd:ON;1fbf-1fc1:ON;1fcd-1fcf:ON;1fdd-1fdf:ON;1f",
    "ed-1fef:ON;1ffd-1ffe:ON;2000-200a:WS;200b-200d:BN;200f-200f:R;2010-2027:ON;2028-2028:WS;2029-202",
    "9:B;202a-202a:LRE;202b-202b:RLE;202c-202c:PDF;202d-202d:LRO;202e-202e:RLO;202f-202f:CS;2030-2034",
    ":ET;2035-2043:ON;2044-2044:CS;2045-205e:ON;205f-205f:WS;2060-2064:BN;2066-2066:LRI;2067-2067:RLI",
    ";2068-2068:FSI;2069-2069:PDI;206a-206f:BN;2070-2070:EN;2074-2079:EN;207a-207b:ES;207c-207e:ON;20",
    "80-2089:EN;208a-208b:ES;208c-208e:ON;20a0-20c0:ET;20d0-20f0:NSM;2100-2101:ON;2103-2106:ON;2108-2",
    "109:ON;2114-2114:ON;2116-2118:ON;211e-2123:ON;2125-2125:ON;2127-2127:ON;2129-2129:ON;212e-212e:E",
    "T;213a-213b:ON;2140-2144:ON;214a-214d:ON;2150-215f:ON;2189-218b:ON;2190-2211:ON;2212-2212:ES;221",
    "3-2213:ET;2214-2335:ON;237b-2394:ON;2396-2426:ON;2440-244a:ON;2460-2487:ON;2488-249b:EN;24ea-26a",
    "b:ON;26ad-27ff:ON;2900-2b73:ON;2b76-2b95:ON;2b97-2bff:ON;2ce5-2cea:ON;2cef-2cf1:NSM;2cf9-2cff:ON",
    ";2d7f-2d7f:NSM;2de0-2dff:NSM;2e00-2e5d:ON;2e80-2e99:ON;2e9b-2ef3:ON;2f00-2fd5:ON;2ff0-2ffb:ON;30",
    "00-3000:WS;3001-3004:ON;3008-3020:ON;302a-302d:NSM;3030-3030:ON;3036-3037:ON;303d-303f:ON;3099-3",
    "09a:NSM;309b-309c:ON;30a0-30a0:ON;30fb-30fb:ON;31c0-31e3:ON;321d-321e:ON;3250-325f:ON;327c-327e:",
    "ON;32b1-32bf:ON;32cc-32cf:ON;3377-337a:ON;33de-33df:ON;33ff-33ff:ON;4dc0-4dff:ON;a490-a4c6:ON;a6",
    "0d-a60f:ON;a66f-a672:NSM;a673-a673:ON;a674-a67d:NSM;a67e-a67f:ON;a69e-a69f:NSM;a6f0-a6f1:NSM;a70",
    "0-a721:ON;a788-a788:ON;a802-a802:NSM;a806-a806:NSM;a80b-a80b:NSM;a825-a826:NSM;a828-a82b:ON;a82c",
    "-a82c:NSM;a838-a839:ET;a874-a877:ON;a8c4-a8c5:NSM;a8e0-a8f1:NSM;a8ff-a8ff:NSM;a926-a92d:NSM;a947",
    "-a951:NSM;a980-a982:NSM;a9b3-a9b3:NSM;a9b6-a9b9:NSM;a9bc-a9bd:NSM;a9e5-a9e5:NSM;aa29-aa2e:NSM;aa",
    "31-aa32:NSM;aa35-aa36:NSM;aa43-aa43:NSM;aa4c-aa4c:NSM;aa7c-aa7c:NSM;aab0-aab0:NSM;aab2-aab4:NSM;",
    "aab7-aab8:NSM;aabe-aabf:NSM;aac1-aac1:NSM;aaec-aaed:NSM;aaf6-aaf6:NSM;ab6a-ab6b:ON;abe5-abe5:NSM",
    ";abe8-abe8:NSM;abed-abed:NSM;fb1d-fb1d:R;fb1e-fb1e:NSM;fb1f-fb28:R;fb29-fb29:ES;fb2a-fb36:R;fb38",
    "-fb3c:R;fb3e-fb3e:R;fb40-fb41:R;fb43-fb44:R;fb46-fb4f:R;fb50-fbc2:AL;fbd3-fd3d:AL;fd3e-fd4f:ON;f",
    "d50-fd8f:AL;fd92-fdc7:AL;fdcf-fdcf:ON;fdf0-fdfc:AL;fdfd-fdff:ON;fe00-fe0f:NSM;fe10-fe19:ON;fe20-",
    "fe2f:NSM;fe30-fe4f:ON;fe50-fe50:CS;fe51-fe51:ON;fe52-fe52:CS;fe54-fe54:ON;fe55-fe55:CS;fe56-fe5e",
    ":ON;fe5f-fe5f:ET;fe60-fe61:ON;fe62-fe63:ES;fe64-fe66:ON;fe68-fe68:ON;fe69-fe6a:ET;fe6b-fe6b:ON;f",
    "e70-fe74:AL;fe76-fefc:AL;feff-feff:BN;ff01-ff02:ON;ff03-ff05:ET;ff06-ff0a:ON;ff0b-ff0b:ES;ff0c-f",
    "f0c:CS;ff0d-ff0d:ES;ff0e-ff0f:CS;ff10-ff19:EN;ff1a-ff1a:CS;ff1b-ff20:ON;ff3b-ff40:ON;ff5b-ff65:O",
    "N;ffe0-ffe1:ET;ffe2-ffe4:ON;ffe5-ffe6:ET;ffe8-ffee:ON;fff9-fffd:ON;10101-10101:ON;10140-1018c:ON",
    ";10190-1019c:ON;101a0-101a0:ON;101fd-101fd:NSM;102e0-102e0:NSM;102e1-102fb:EN;10376-1037a:NSM;10",
    "800-10805:R;10808-10808:R;1080a-10835:R;10837-10838:R;1083c-1083c:R;1083f-10855:R;10857-1089e:R;",
    "108a7-108af:R;108e0-108f2:R;108f4-108f5:R;108fb-1091b:R;1091f-1091f:ON;10920-10939:R;1093f-1093f",
    ":R;10980-109b7:R;109bc-109cf:R;109d2-10a00:R;10a01-10a03:NSM;10a05-10a06:NSM;10a0c-10a0f:NSM;10a",
    "10-10a13:R;10a15-10a17:R;10a19-10a35:R;10a38-10a3a:NSM;10a3f-10a3f:NSM;10a40-10a48:R;10a50-10a58",
    ":R;10a60-10a9f:R;10ac0-10ae4:R;10ae5-10ae6:NSM;10aeb-10af6:R;10b00-10b35:R;10b39-10b3f:ON;10b40-",
    "10b55:R;10b58-10b72:R;10b78-10b91:R;10b99-10b9c:R;10ba9-10baf:R;10c00-10c48:R;10c80-10cb2:R;10cc",
    "0-10cf2:R;10cfa-10cff:R;10d00-10d23:AL;10d24-10d27:NSM;10d30-10d39:AN;10e60-10e7e:AN;10e80-10ea9",
    ":R;10eab-10eac:NSM;10ead-10ead:R;10eb0-10eb1:R;10efd-10eff:NSM;10f00-10f27:R;10f30-10f45:AL;10f4",
    "6-10f50:NSM;10f51-10f59:AL;10f70-10f81:R;10f82-10f85:NSM;10f86-10f89:R;10fb0-10fcb:R;10fe0-10ff6",
    ":R;11001-11001:NSM;11038-11046:NSM;11052-11065:ON;11070-11070:NSM;11073-11074:NSM;1107f-11081:NS",
    "M;110b3-110b6:NSM;110b9-110ba:NSM;110c2-110c2:NSM;11100-11102:NSM;11127-1112b:NSM;1112d-11134:NS",
    "M;11173-11173:NSM;11180-11181:NSM;111b6-111be:NSM;111c9-111cc:NSM;111cf-111cf:NSM;1122f-11231:NS",
    "M;11234-11234:NSM;11236-11237:NSM;1123e-1123e:NSM;11241-11241:NSM;112df-112df:NSM;112e3-112ea:NS",
    "M;11300-11301:NSM;1133b-1133c:NSM;11340-11340:NSM;11366-1136c:NSM;11370-11374:NSM;11438-1143f:NS",
    "M;11442-11444:NSM;11446-11446:NSM;1145e-1145e:NSM;114b3-114b8:NSM;114ba-114ba:NSM;114bf-114c0:NS",
    "M;114c2-114c3:NSM;115b2-115b5:NSM;115bc-115bd:NSM;115bf-115c0:NSM;115dc-115dd:NSM;11633-1163a:NS",
    "M;1163d-1163d:NSM;1163f-11640:NSM;11660-1166c:ON;116ab-116ab:NSM;116ad-116ad:NSM;116b0-116b5:NSM",
    ";116b7-116b7:NSM;1171d-1171f:NSM;11722-11725:NSM;11727-1172b:NSM;1182f-11837:NSM;11839-1183a:NSM",
    ";1193b-1193c:NSM;1193e-1193e:NSM;11943-11943:NSM;119d4-119d7:NSM;119da-119db:NSM;119e0-119e0:NSM",
    ";11a01-11a06:NSM;11a09-11a0a:NSM;11a33-11a38:NSM;11a3b-11a3e:NSM;11a47-11a47:NSM;11a51-11a56:NSM",
    ";11a59-11a5b:NSM;11a8a-11a96:NSM;11a98-11a99:NSM;11c30-11c36:NSM;11c38-11c3d:NSM;11c92-11ca7:NSM",
    ";11caa-11cb0:NSM;11cb2-11cb3:NSM;11cb5-11cb6:NSM;11d31-11d36:NSM;11d3a-11d3a:NSM;11d3c-11d3d:NSM",
    ";11d3f-11d45:NSM;11d47-11d47:NSM;11d90-11d91:NSM;11d95-11d95:NSM;11d97-11d97:NSM;11ef3-11ef4:NSM",
    ";11f00-11f01:NSM;11f36-11f3a:NSM;11f40-11f40:NSM;11f42-11f42:NSM;11fd5-11fdc:ON;11fdd-11fe0:ET;1",
    "1fe1-11ff1:ON;13440-13440:NSM;13447-13455:NSM;16af0-16af4:NSM;16b30-16b36:NSM;16f4f-16f4f:NSM;16",
    "f8f-16f92:NSM;16fe2-16fe2:ON;16fe4-16fe4:NSM;1bc9d-1bc9e:NSM;1bca0-1bca3:BN;1cf00-1cf2d:NSM;1cf3",
    "0-1cf46:NSM;1d167-1d169:NSM;1d173-1d17a:BN;1d17b-1d182:NSM;1d185-1d18b:NSM;1d1aa-1d1ad:NSM;1d1e9",
    "-1d1ea:ON;1d200-1d241:ON;1d242-1d244:NSM;1d245-1d245:ON;1d300-1d356:ON;1d6db-1d6db:ON;1d715-1d71",
    "5:ON;1d74f-1d74f:ON;1d789-1d789:ON;1d7c3-1d7c3:ON;1d7ce-1d7ff:EN;1da00-1da36:NSM;1da3b-1da6c:NSM",
    ";1da75-1da75:NSM;1da84-1da84:NSM;1da9b-1da9f:NSM;1daa1-1daaf:NSM;1e000-1e006:NSM;1e008-1e018:NSM",
    ";1e01b-1e021:NSM;1e023-1e024:NSM;1e026-1e02a:NSM;1e08f-1e08f:NSM;1e130-1e136:NSM;1e2ae-1e2ae:NSM",
    ";1e2ec-1e2ef:NSM;1e2ff-1e2ff:ET;1e4ec-1e4ef:NSM;1e800-1e8c4:R;1e8c7-1e8cf:R;1e8d0-1e8d6:NSM;1e90",
    "0-1e943:R;1e944-1e94a:NSM;1e94b-1e94b:R;1e950-1e959:R;1e95e-1e95f:R;1ec71-1ecb4:AL;1ed01-1ed3d:A",
    "L;1ee00-1ee03:AL;1ee05-1ee1f:AL;1ee21-1ee22:AL;1ee24-1ee24:AL;1ee27-1ee27:AL;1ee29-1ee32:AL;1ee3",
    "4-1ee37:AL;1ee39-1ee39:AL;1ee3b-1ee3b:AL;1ee42-1ee42:AL;1ee47-1ee47:AL;1ee49-1ee49:AL;1ee4b-1ee4",
    "b:AL;1ee4d-1ee4f:AL;1ee51-1ee52:AL;1ee54-1ee54:AL;1ee57-1ee57:AL;1ee59-1ee59:AL;1ee5b-1ee5b:AL;1",
    "ee5d-1ee5d:AL;1ee5f-1ee5f:AL;1ee61-1ee62:AL;1ee64-1ee64:AL;1ee67-1ee6a:AL;1ee6c-1ee72:AL;1ee74-1",
    "ee77:AL;1ee79-1ee7c:AL;1ee7e-1ee7e:AL;1ee80-1ee89:AL;1ee8b-1ee9b:AL;1eea1-1eea3:AL;1eea5-1eea9:A",
    "L;1eeab-1eebb:AL;1eef0-1eef1:ON;1f000-1f02b:ON;1f030-1f093:ON;1f0a0-1f0ae:ON;1f0b1-1f0bf:ON;1f0c",
    "1-1f0cf:ON;1f0d1-1f0f5:ON;1f100-1f10a:EN;1f10b-1f10f:ON;1f12f-1f12f:ON;1f16a-1f16f:ON;1f1ad-1f1a",
    "d:ON;1f260-1f265:ON;1f300-1f6d7:ON;1f6dc-1f6ec:ON;1f6f0-1f6fc:ON;1f700-1f776:ON;1f77b-1f7d9:ON;1",
    "f7e0-1f7eb:ON;1f7f0-1f7f0:ON;1f800-1f80b:ON;1f810-1f847:ON;1f850-1f859:ON;1f860-1f887:ON;1f890-1",
    "f8ad:ON;1f8b0-1f8b1:ON;1f900-1fa53:ON;1fa60-1fa6d:ON;1fa70-1fa7c:ON;1fa80-1fa88:ON;1fa90-1fabd:O",
    "N;1fabf-1fac5:ON;1face-1fadb:ON;1fae0-1fae8:ON;1faf0-1faf8:ON;1fb00-1fb92:ON;1fb94-1fbca:ON;1fbf",
    "0-1fbf9:EN;e0001-e0001:BN;e0020-e007f:BN;e0100-e01ef:NSM"]

/-- Joining types, by range. -/
def joiningTypeText : String :=
  String.join [
    "ad-ad:T;300-36f:T;483-489:T;591-5bd:T;5bf-5bf:T;5c1-5c2:T;5c4-5c5:T;5c7-5c7:T;610-61a:T;61c-61c:",
    "T;620-620:D;622-625:R;626-626:D;627-627:R;628-628:D;629-629:R;62a-62e:D;62f-632:R;633-63f:D;640-",
    "640:C;641-647:D;648-648:R;649-64a:D;64b-65f:T;66e-66f:D;670-670:T;671-673:R;675-677:R;678-687:D;",
    "688-699:R;69a-6bf:D;6c0-6c0:R;6c1-6c2:D;6c3-6cb:R;6cc-6cc:D;6cd-6cd:R;6ce-6ce:D;6cf-6cf:R;6d0-6d",
    "1:D;6d2-6d3:R;6d5-6d5:R;6d6-6dc:T;6df-6e4:T;6e7-6e8:T;6ea-6ed:T;6ee-6ef:R;6fa-6fc:D;6ff-6ff:D;70",
    "f-70f:T;710-710:R;711-711:T;712-714:D;715-719:R;71a-71d:D;71e-71e:R;71f-727:D;728-728:R;729-729:",
    "D;72a-72a:R;72b-72b:D;72c-72c:R;72d-72e:D;72f-72f:R;730-74a:T;74d-74d:R;74e-758:D;759-75b:R;75c-",
    "76a:D;76b-76c:R;76d-770:D;771-771:R;772-772:D;773-774:R;775-777:D;778-779:R;77a-77f:D;7a6-7b0:T;",
    "7ca-7ea:D;7eb-7f3:T;7fa-7fa:C;7fd-7fd:T;816-819:T;81b-823:T;825-827:T;829-82d:T;840-840:R;841-84",
    "5:D;846-847:R;848-848:D;849-849:R;84a-853:D;854-854:R;855-855:D;856-858:R;859-85b:T;860-860:D;86",
    "2-865:D;867-867:R;868-868:D;869-86a:R;870-882:R;883-885:C;886-886:D;889-88d:D;88e-88e:R;88f-88f:",
    "D;897-89f:T;8a0-8a9:D;8aa-8ac:R;8ae-8ae:R;8af-8b0:D;8b1-8b2:R;8b3-8b8:D;8b9-8b9:R;8ba-8c8:D;8ca-",
    "8e1:T;8e3-902:T;93a-93a:T;93c-93c:T;941-948:T;94d-94d:T;951-957:T;962-963:T;981-981:T;9bc-9bc:T;",
    "9c1-9c4:T;9cd-9cd:T;9e2-9e3:T;9fe-9fe:T;a01-a02:T;a3c-a3c:T;a41-a42:T;a47-a48:T;a4b-a4d:T;a51-a5",
    "1:T;a70-a71:T;a75-a75:T;a81-a82:T;abc-abc:T;ac1-ac5:T;ac7-ac8:T;acd-acd:T;ae2-ae3:T;afa-aff:T;b0",
    "1-b01:T;b3c-b3c:T;b3f-b3f:T;b41-b44:T;b4d-b4d:T;b55-b56:T;b62-b63:T;b82-b82:T;bc0-bc0:T;bcd-bcd:",
    "T;c00-c00:T;c04-c04:T;c3c-c3c:T;c3e-c40:T;c46-c48:T;c4a-c4d:T;c55-c56:T;c62-c63:T;c81-c81:T;cbc-",
    "cbc:T;cbf-cbf:T;cc6-cc6:T;ccc-ccd:T;ce2-ce3:T;d00-d01:T;d3b-d3c:T;d41-d44:T;d4d-d4d:T;d62-d63:T;",
    "d81-d81:T;dca-dca:T;dd2-dd4:T;dd6-dd6:T;e31-e31:T;e34-e3a:T;e47-e4e:T;eb1-eb1:T;eb4-ebc:T;ec8-ec",
    "e:T;f18-f19:T;f35-f35:T;f37-f37:T;f39-f39:T;f71-f7e:T;f80-f84:T;f86-f87:T;f8d-f97:T;f99-fbc:T;fc",
    "6-fc6:T;102d-1030:T;1032-1037:T;1039-103a:T;103d-103e:T;1058-1059:T;105e-1060:T;1071-1074:T;1082",
    "-1082:T;1085-1086:T;108d-108d:T;109d-109d:T;135d-135f:T;1712-1714:T;1732-1733:T;1752-1753:T;1772",
    "-1773:T;17b4-17b5:T;17b7-17bd:T;17c6-17c6:T;17c9-17d3:T;17dd-17dd:T;1807-1807:D;180a-180a:C;180b",
    "-180d:T;180f-180f:T;1820-1878:D;1885-1886:T;1887-18a8:D;18a9-18a9:T;18aa-18aa:D;1920-1922:T;1927",
    "-1928:T;1932-1932:T;1939-193b:T;1a17-1a18:T;1a1b-1a1b:T;1a56-1a56:T;1a58-1a5e:T;1a60-1a60:T;1a62",
    "-1a62:T;1a65-1a6c:T;1a73-1a7c:T;1a7f-1a7f:T;1ab0-1add:T;1ae0-1aeb:T;1b00-1b03:T;1b34-1b34:T;1b36",
    "-1b3a:T;1b3c-1b3c:T;1b42-1b42:T;1b6b-1b73:T;1b80-1b81:T;1ba2-1ba5:T;1ba8-1ba9:T;1bab-1bad:T;1be6",
    "-1be6:T;1be8-1be9:T;1bed-1bed:T;1bef-1bf1:T;1c2c-1c33:T;1c36-1c37:T;1cd0-1cd2:T;1cd4-1ce0:T;1ce2",
    "-1ce8:T;1ced-1ced:T;1cf4-1cf4:T;1cf8-1cf9:T;1dc0-1dff:T;200b-200b:T;200d-200d:C;200e-200f:T;202a",
    "-202e:T;2060-2064:T;206a-206f:T;20d0-20f0:T;2cef-2cf1:T;2d7f-2d7f:T;2de0-2dff:T;302a-302d:T;3099",
    "-309a:T;a66f-a672:T;a674-a67d:T;a69e-a69f:T;a6f0-a6f1:T;a802-a802:T;a806-a806:T;a80b-a80b:T;a825",
    "-a826:T;a82c-a82c:T;a840-a871:D;a872-a872:L;a8c4-a8c5:T;a8e0-a8f1:T;a8ff-a8ff:T;a926-a92d:T;a947",
    "-a951:T;a980-a982:T;a9b3-a9b3:T;a9b6-a9b9:T;a9bc-a9bd:T;a9e5-a9e5:T;aa29-aa2e:T;aa31-aa32:T;aa35",
    "-aa36:T;aa43-aa43:T;aa4c-aa4c:T;aa7c-aa7c:T;aab0-aab0:T;aab2-aab4:T;aab7-aab8:T;aabe-aabf:T;aac1",
    "-aac1:T;aaec-aaed:T;aaf6-aaf6:T;abe5-abe5:T;abe8-abe8:T;abed-abed:T;fb1e-fb1e:T;fe00-fe0f:T;fe20",
    "-fe2f:T;feff-feff:T;fff9-fffb:T;101fd-101fd:T;102e0-102e0:T;10376-1037a:T;10a01-10a03:T;10a05-10",
    "a06:T;10a0c-10a0f:T;10a38-10a3a:T;10a3f-10a3f:T;10ac0-10ac4:D;10ac5-10ac5:R;10ac7-10ac7:R;10ac9-",
    "10aca:R;10acd-10acd:L;10ace-10ad2:R;10ad3-10ad6:D;10ad7-10ad7:L;10ad8-10adc:D;10add-10add:R;10ad",
    "e-10ae0:D;10ae1-10ae1:R;10ae4-10ae4:R;10ae5-10ae6:T;10aeb-10aee:D;10aef-10aef:R;10b80-10b80:D;10",
    "b81-10b81:R;10b82-10b82:D;10b83-10b85:R;10b86-10b88:D;10b89-10b89:R;10b8a-10b8b:D;10b8c-10b8c:R;",
    "10b8d-10b8d:D;10b8e-10b8f:R;10b90-10b90:D;10b91-10b91:R;10ba9-10bac:R;10bad-10bae:D;10d00-10d00:",
    "L;10d01-10d21:D;10d22-10d22:R;10d23-10d23:D;10d24-10d27:T;10d69-10d6d:T;10eab-10eac:T;10ec2-10ec",
    "2:R;10ec3-10ec4:D;10ec6-10ec7:D;10efa-10eff:T;10f30-10f32:D;10f33-10f33:R;10f34-10f44:D;10f46-10",
    "f50:T;10f51-10f53:D;10f54-10f54:R;10f70-10f73:D;10f74-10f75:R;10f76-10f81:D;10f82-10f85:T;10fb0-",
    "10fb0:D;10fb2-10fb3:D;10fb4-10fb6:R;10fb8-10fb8:D;10fb9-10fba:R;10fbb-10fbc:D;10fbd-10fbd:R;10fb",
    "e-10fbf:D;10fc1-10fc1:D;10fc2-10fc3:R;10fc4-10fc4:D;10fc9-10fc9:R;10fca-10fca:D;10fcb-10fcb:L;11",
    "001-11001:T;11038-11046:T;11070-11070:T;11073-11074:T;1107f-11081:T;110b3-110b6:T;110b9-110ba:T;",
    "110c2-110c2:T;11100-11102:T;11127-1112b:T;1112d-11134:T;11173-11173:T;11180-11181:T;111b6-111be:",
    "T;111c9-111cc:T;111cf-111cf:T;1122f-11231:T;11234-11234:T;11236-11237:T;1123e-1123e:T;11241-1124",
    "1:T;112df-112df:T;112e3-112ea:T;11300-11301:T;1133b-1133c:T;11340-11340:T;11366-1136c:T;11370-11",
    "374:T;113bb-113c0:T;113ce-113ce:T;113d0-113d0:T;113d2-113d2:T;113e1-113e2:T;11438-1143f:T;11442-",
    "11444:T;11446-11446:T;1145e-1145e:T;114b3-114b8:T;114ba-114ba:T;114bf-114c0:T;114c2-114c3:T;115b",
    "2-115b5:T;115bc-115bd:T;115bf-115c0:T;115dc-115dd:T;11633-1163a:T;1163d-1163d:T;1163f-11640:T;11",
    "6ab-116ab:T;116ad-116ad:T;116b0-116b5:T;116b7-116b7:T;1171d-1171d:T;1171f-1171f:T;11722-11725:T;",
    "11727-1172b:T;1182f-11837:T;11839-1183a:T;1193b-1193c:T;1193e-1193e:T;11943-11943:T;119d4-119d7:",
    "T;119da-119db:T;119e0-119e0:T;11a01-11a0a:T;11a33-11a38:T;11a3b-11a3e:T;11a47-11a47:T;11a51-11a5",
    "6:T;11a59-11a5b:T;11a8a-11a96:T;11a98-11a99:T;11b60-11b60:T;11b62-11b64:T;11b66-11b66:T;11c30-11",
    "c36:T;11c38-11c3d:T;11c3f-11c3f:T;11c92-11ca7:T;11caa-11cb0:T;11cb2-11cb3:T;11cb5-11cb6:T;11d31-",
    "11d36:T;11d3a-11d3a:T;11d3c-11d3d:T;11d3f-11d45:T;11d47-11d47:T;11d90-11d91:T;11d95-11d95:T;11d9",
    "7-11d97:T;11ef3-11ef4:T;11f00-11f01:T;11f36-11f3a:T;11f40-11f40:T;11f42-11f42:T;11f5a-11f5a:T;13",
    "430-13440:T;13447-13455:T;1611e-16129:T;1612d-1612f:T;16af0-16af4:T;16b30-16b36:T;16f4f-16f4f:T;",
    "16f8f-16f92:T;16fe4-16fe4:T;1bc9d-1bc9e:T;1bca0-1bca3:T;1cf00-1cf2d:T;1cf30-1cf46:T;1d167-1d169:",
    "T;1d173-1d182:T;1d185-1d18b:T;1d1aa-1d1ad:T;1d242-1d244:T;1da00-1da36:T;1da3b-1da6c:T;1da75-1da7",
    "5:T;1da84-1da84:T;1da9b-1da9f:T;1daa1-1daaf:T;1e000-1e006:T;1e008-1e018:T;1e01b-1e021:T;1e023-1e",
    "024:T;1e026-1e02a:T;1e08f-1e08f:T;1e130-1e136:T;1e2ae-1e2ae:T;1e2ec-1e2ef:T;1e4ec-1e4ef:T;1e5ee-",
    "1e5ef:T;1e6e3-1e6e3:T;1e6e6-1e6e6:T;1e6ee-1e6ef:T;1e6f5-1e6f5:T;1e8d0-1e8d6:T;1e900-1e943:D;1e94",
    "4-1e94b:T;e0001-e0001:T;e0020-e007f:T;e0100-e01ef:T"]

end Unicode
end Conveyor
