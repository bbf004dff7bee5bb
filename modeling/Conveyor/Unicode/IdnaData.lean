/-!
# The IDNA mapping table

The status of every code point for international domain names (UTS #46, Unicode 17.0), as
ranges: each entry is the first code point of a range in hexadecimal, then its status
(`V` valid, `M` mapped, `D` deviation, `I` ignored, `X` disallowed), then for a mapped range
the code points it maps to (hexadecimal, separated by commas). A range runs to the code point
before the next entry's. A run `first-last>target` stands for one mapped entry for each code
point from `first` to `last`, which maps them one by one onto the code points from `target`.
Entries are separated by semicolons.
-/

namespace Conveyor
namespace Unicode

/-- The IDNA mapping table, one entry per range. -/
def idnaMappingText : String :=
  String.join [
    "0V;1V;2V;3V;4V;5V;6V;7V;8V;9V;aV;bV;cV;dV;eV;fV;10V;11V;12V;13V;14V;15V;16V;17V;18V;19V;1aV;1bV;1c",
    "V;1dV;1eV;1fV;20V;21V;22V;23V;24V;25V;26V;27V;28V;29V;2aV;2bV;2cV;2dV;2eV;2fV;30V;31V;32V;33V;34V;",
    "35V;36V;37V;38V;39V;3aV;3bV;3cV;3dV;3eV;3fV;40V;41-5a>61;5bV;5cV;5dV;5eV;5fV;60V;61V;62V;63V;64V;6",
    "5V;66V;67V;68V;69V;6aV;6bV;6cV;6dV;6eV;6fV;70V;71V;72V;73V;74V;75V;76V;77V;78V;79V;7aV;7bV;7cV;7dV",
    ";7eV;7fV;80X;81X;82X;83X;84X;85X;86X;87X;88X;89X;8aX;8bX;8cX;8dX;8eX;8fX;90X;91X;92X;93X;94X;95X;9",
    "6X;97X;98X;99X;9aX;9bX;9cX;9dX;9eX;9fX;a0M20;a1V;a2V;a3V;a4V;a5V;a6V;a7V;a8M20,308;a9V;aaM61;abV;a",
    "cV;adI;aeV;afM20,304;b0V;b1V;b2M32;b3M33;b4M20,301;b5M3bc;b6V;b7V;b8M20,327;b9M31;baM6f;bbV;bcM31,",
    "2044,34;bdM31,2044,32;beM33,2044,34;bfV;c0-d6>e0;d7V;d8-de>f8;dfD;e0V;e1V;e2V;e3V;e4V;e5V;e6V;e7V;",
    "e8V;e9V;eaV;ebV;ecV;edV;eeV;efV;f0V;f1V;f2V;f3V;f4V;f5V;f6V;f7V;f8V;f9V;faV;fbV;fcV;fdV;feV;ffV;10",
    "0M101;101V;102M103;103V;104M105;105V;106M107;107V;108M109;109V;10aM10b;10bV;10cM10d;10dV;10eM10f;1",
    "0fV;110M111;111V;112M113;113V;114M115;115V;116M117;117V;118M119;119V;11aM11b;11bV;11cM11d;11dV;11e",
    "M11f;11fV;120M121;121V;122M123;123V;124M125;125V;126M127;127V;128M129;129V;12aM12b;12bV;12cM12d;12",
    "dV;12eM12f;12fV;130M69,307;131V;132M69,6a;134M135;135V;136M137;137V;139M13a;13aV;13bM13c;13cV;13dM",
    "13e;13eV;13fM6c,b7;141M142;142V;143M144;144V;145M146;146V;147M148;148V;149M2bc,6e;14aM14b;14bV;14c",
    "M14d;14dV;14eM14f;14fV;150M151;151V;152M153;153V;154M155;155V;156M157;157V;158M159;159V;15aM15b;15",
    "bV;15cM15d;15dV;15eM15f;15fV;160M161;161V;162M163;163V;164M165;165V;166M167;167V;168M169;169V;16aM",
    "16b;16bV;16cM16d;16dV;16eM16f;16fV;170M171;171V;172M173;173V;174M175;175V;176M177;177V;178Mff;179M",
    "17a;17aV;17bM17c;17cV;17dM17e;17eV;17fM73;180V;181M253;182M183;183V;184M185;185V;186M254;187M188;1",
    "88V;189M256;18aM257;18bM18c;18cV;18eM1dd;18fM259;190M25b;191M192;192V;193M260;194M263;195V;196M269",
    ";197M268;198M199;199V;19cM26f;19dM272;19eV;19fM275;1a0M1a1;1a1V;1a2M1a3;1a3V;1a4M1a5;1a5V;1a6M280;",
    "1a7M1a8;1a8V;1a9M283;1aaV;1acM1ad;1adV;1aeM288;1afM1b0;1b0V;1b1M28a;1b2M28b;1b3M1b4;1b4V;1b5M1b6;1",
    "b6V;1b7M292;1b8M1b9;1b9V;1bcM1bd;1bdV;1c4M64,17e;1c7M6c,6a;1caM6e,6a;1cdM1ce;1ceV;1cfM1d0;1d0V;1d1",
    "M1d2;1d2V;1d3M1d4;1d4V;1d5M1d6;1d6V;1d7M1d8;1d8V;1d9M1da;1daV;1dbM1dc;1dcV;1deM1df;1dfV;1e0M1e1;1e",
    "1V;1e2M1e3;1e3V;1e4M1e5;1e5V;1e6M1e7;1e7V;1e8M1e9;1e9V;1eaM1eb;1ebV;1ecM1ed;1edV;1eeM1ef;1efV;1f1M",
    "64,7a;1f4M1f5;1f5V;1f6M195;1f7M1bf;1f8M1f9;1f9V;1faM1fb;1fbV;1fcM1fd;1fdV;1feM1ff;1ffV;200M201;201",
    "V;202M203;203V;204M205;205V;206M207;207V;208M209;209V;20aM20b;20bV;20cM20d;20dV;20eM20f;20fV;210M2",
    "11;211V;212M213;213V;214M215;215V;216M217;217V;218M219;219V;21aM21b;21bV;21cM21d;21dV;21eM21f;21fV",
    ";220M19e;221V;222M223;223V;224M225;225V;226M227;227V;228M229;229V;22aM22b;22bV;22cM22d;22dV;22eM22",
    "f;22fV;230M231;231V;232M233;233V;23aM2c65;23bM23c;23cV;23dM19a;23eM2c66;23fV;241M242;242V;243M180;",
    "244M289;245M28c;246M247;247V;248M249;249V;24aM24b;24bV;24cM24d;24dV;24eM24f;24fV;2b0M68;2b1M266;2b",
    "2M6a;2b3M72;2b4M279;2b5M27b;2b6M281;2b7M77;2b8M79;2b9V;2d8M20,306;2d9M20,307;2daM20,30a;2dbM20,328",
    ";2dcM20,303;2ddM20,30b;2deV;2e0M263;2e1M6c;2e2M73;2e3M78;2e4M295;2e5V;340M300;341M301;342V;343M313",
    ";344M308,301;345M3b9;346V;34fI;350V;370M371;371V;372M373;373V;374M2b9;375V;376M377;377V;378X;37aM2",
    "0,3b9;37bV;37eM3b;37fM3f3;380X;384M20,301;385M20,308,301;386M3ac;387Mb7;388-38a>3ad;38bX;38cM3cc;3",
    "8dX;38eM3cd;38fM3ce;390V;391-3a1>3b1;3a2X;3a3-3ab>3c3;3acV;3c2D;3c3V;3cfM3d7;3d0M3b2;3d1M3b8;3d2M3",
    "c5;3d3M3cd;3d4M3cb;3d5M3c6;3d6M3c0;3d7V;3d8M3d9;3d9V;3daM3db;3dbV;3dcM3dd;3ddV;3deM3df;3dfV;3e0M3e",
    "1;3e1V;3e2M3e3;3e3V;3e4M3e5;3e5V;3e6M3e7;3e7V;3e8M3e9;3e9V;3eaM3eb;3ebV;3ecM3ed;3edV;3eeM3ef;3efV;",
    "3f0M3ba;3f1M3c1;3f2M3c3;3f3V;3f4M3b8;3f5M3b5;3f6V;3f7M3f8;3f8V;3f9M3c3;3faM3fb;3fbV;3fd-3ff>37b;40",
    "0-40f>450;410-42f>430;430V;460M461;461V;462M463;463V;464M465;465V;466M467;467V;468M469;469V;46aM46",
    "b;46bV;46cM46d;46dV;46eM46f;46fV;470M471;471V;472M473;473V;474M475;475V;476M477;477V;478M479;479V;",
    "47aM47b;47bV;47cM47d;47dV;47eM47f;47fV;480M481;481V;48aM48b;48bV;48cM48d;48dV;48eM48f;48fV;490M491",
    ";491V;492M493;493V;494M495;495V;496M497;497V;498M499;499V;49aM49b;49bV;49cM49d;49dV;49eM49f;49fV;4",
    "a0M4a1;4a1V;4a2M4a3;4a3V;4a4M4a5;4a5V;4a6M4a7;4a7V;4a8M4a9;4a9V;4aaM4ab;4abV;4acM4ad;4adV;4aeM4af;",
    "4afV;4b0M4b1;4b1V;4b2M4b3;4b3V;4b4M4b5;4b5V;4b6M4b7;4b7V;4b8M4b9;4b9V;4baM4bb;4bbV;4bcM4bd;4bdV;4b",
    "eM4bf;4bfV;4c0M4cf;4c1M4c2;4c2V;4c3M4c4;4c4V;4c5M4c6;4c6V;4c7M4c8;4c8V;4c9M4ca;4caV;4cbM4cc;4ccV;4",
    "cdM4ce;4ceV;4d0M4d1;4d1V;4d2M4d3;4d3V;4d4M4d5;4d5V;4d6M4d7;4d7V;4d8M4d9;4d9V;4daM4db;4dbV;4dcM4dd;",
    "4ddV;4deM4df;4dfV;4e0M4e1;4e1V;4e2M4e3;4e3V;4e4M4e5;4e5V;4e6M4e7;4e7V;4e8M4e9;4e9V;4eaM4eb;4ebV;4e",
    "cM4ed;4edV;4eeM4ef;4efV;4f0M4f1;4f1V;4f2M4f3;4f3V;4f4M4f5;4f5V;4f6M4f7;4f7V;4f8M4f9;4f9V;4faM4fb;4",
    "fbV;4fcM4fd;4fdV;4feM4ff;4ffV;500M501;501V;502M503;503V;504M505;505V;506M507;507V;508M509;509V;50a",
    "M50b;50bV;50cM50d;50dV;50eM50f;50fV;510M511;511V;512M513;513V;514M515;515V;516M517;517V;518M519;51",
    "9V;51aM51b;51bV;51cM51d;51dV;51eM51f;51fV;520M521;521V;522M523;523V;524M525;525V;526M527;527V;528M",
    "529;529V;52aM52b;52bV;52cM52d;52dV;52eM52f;52fV;530X;531-556>561;557X;559V;587M565,582;588V;58bX;5",
    "8dV;590X;591V;5c8X;5d0V;5ebX;5efV;5f5X;606V;61cX;61dV;675M627,674;676M648,674;677M6c7,674;678M64a,",
    "674;679V;6ddX;6deV;70eX;710V;74bX;74dV;7b2X;7c0V;7fbX;7fdV;82eX;830V;83fX;840V;85cX;85eV;85fX;860V",
    ";86bX;870V;890X;897V;8e2X;8e3V;958M915,93c;959M916,93c;95aM917,93c;95bM91c,93c;95cM921,93c;95dM922",
    ",93c;95eM92b,93c;95fM92f,93c;960V;984X;985V;98dX;98fV;991X;993V;9a9X;9aaV;9b1X;9b2V;9b3X;9b6V;9baX",
    ";9bcV;9c5X;9c7V;9c9X;9cbV;9cfX;9d7V;9d8X;9dcM9a1,9bc;9ddM9a2,9bc;9deX;9dfM9af,9bc;9e0V;9e4X;9e6V;9",
    "ffX;a01V;a04X;a05V;a0bX;a0fV;a11X;a13V;a29X;a2aV;a31X;a32V;a33Ma32,a3c;a34X;a35V;a36Ma38,a3c;a37X;",
    "a38V;a3aX;a3cV;a3dX;a3eV;a43X;a47V;a49X;a4bV;a4eX;a51V;a52X;a59Ma16,a3c;a5aMa17,a3c;a5bMa1c,a3c;a5",
    "cV;a5dX;a5eMa2b,a3c;a5fX;a66V;a77X;a81V;a84X;a85V;a8eX;a8fV;a92X;a93V;aa9X;aaaV;ab1X;ab2V;ab4X;ab5",
    "V;abaX;abcV;ac6X;ac7V;acaX;acbV;aceX;ad0V;ad1X;ae0V;ae4X;ae6V;af2X;af9V;b00X;b01V;b04X;b05V;b0dX;b",
    "0fV;b11X;b13V;b29X;b2aV;b31X;b32V;b34X;b35V;b3aX;b3cV;b45X;b47V;b49X;b4bV;b4eX;b55V;b58X;b5cMb21,b",
    "3c;b5dMb22,b3c;b5eX;b5fV;b64X;b66V;b78X;b82V;b84X;b85V;b8bX;b8eV;b91X;b92V;b96X;b99V;b9bX;b9cV;b9d",
    "X;b9eV;ba0X;ba3V;ba5X;ba8V;babX;baeV;bbaX;bbeV;bc3X;bc6V;bc9X;bcaV;bceX;bd0V;bd1X;bd7V;bd8X;be6V;b",
    "fbX;c00V;c0dX;c0eV;c11X;c12V;c29X;c2aV;c3aX;c3cV;c45X;c46V;c49X;c4aV;c4eX;c55V;c57X;c58V;c5bX;c5cV",
    ";c5eX;c60V;c64X;c66V;c70X;c77V;c8dX;c8eV;c91X;c92V;ca9X;caaV;cb4X;cb5V;cbaX;cbcV;cc5X;cc6V;cc9X;cc",
    "aV;cceX;cd5V;cd7X;cdcV;cdfX;ce0V;ce4X;ce6V;cf0X;cf1V;cf4X;d00V;d0dX;d0eV;d11X;d12V;d45X;d46V;d49X;",
    "d4aV;d50X;d54V;d64X;d66V;d80X;d81V;d84X;d85V;d97X;d9aV;db2X;db3V;dbcX;dbdV;dbeX;dc0V;dc7X;dcaV;dcb",
    "X;dcfV;dd5X;dd6V;dd7X;dd8V;de0X;de6V;df0X;df2V;df5X;e01V;e33Me4d,e32;e34V;e3bX;e3fV;e5cX;e81V;e83X",
    ";e84V;e85X;e86V;e8bX;e8cV;ea4X;ea5V;ea6X;ea7V;eb3Mecd,eb2;eb4V;ebeX;ec0V;ec5X;ec6V;ec7X;ec8V;ecfX;",
    "ed0V;edaX;edcMeab,e99;eddMeab,ea1;edeV;ee0X;f00V;f0cMf0b;f0dV;f43Mf42,fb7;f44V;f48X;f49V;f4dMf4c,f",
    "b7;f4eV;f52Mf51,fb7;f53V;f57Mf56,fb7;f58V;f5cMf5b,fb7;f5dV;f69Mf40,fb5;f6aV;f6dX;f71V;f73Mf71,f72;",
    "f74V;f75Mf71,f74;f76Mfb2,f80;f77Mfb2,f71,f80;f78Mfb3,f80;f79Mfb3,f71,f80;f7aV;f81Mf71,f80;f82V;f93",
    "Mf92,fb7;f94V;f98X;f99V;f9dMf9c,fb7;f9eV;fa2Mfa1,fb7;fa3V;fa7Mfa6,fb7;fa8V;facMfab,fb7;fadV;fb9Mf9",
    "0,fb5;fbaV;fbdX;fbeV;fcdX;fceV;fdbX;1000V;10a0-10c5>2d00;10c6X;10c7M2d27;10c8X;10cdM2d2d;10ceX;10d",
    "0V;10fcM10dc;10fdV;115fI;1161V;1249X;124aV;124eX;1250V;1257X;1258V;1259X;125aV;125eX;1260V;1289X;1",
    "28aV;128eX;1290V;12b1X;12b2V;12b6X;12b8V;12bfX;12c0V;12c1X;12c2V;12c6X;12c8V;12d7X;12d8V;1311X;131",
    "2V;1316X;1318V;135bX;135dV;137dX;1380V;139aX;13a0V;13f6X;13f8-13fd>13f0;13feX;1400V;1680X;1681V;16",
    "9dX;16a0V;16f9X;1700V;1716X;171fV;1737X;1740V;1754X;1760V;176dX;176eV;1771X;1772V;1774X;1780V;17b4",
    "I;17b6V;17deX;17e0V;17eaX;17f0V;17faX;1800V;180bI;1810V;181aX;1820V;1879X;1880V;18abX;18b0V;18f6X;",
    "1900V;191fX;1920V;192cX;1930V;193cX;1940V;1941X;1944V;196eX;1970V;1975X;1980V;19acX;19b0V;19caX;19",
    "d0V;19dbX;19deV;1a1cX;1a1eV;1a5fX;1a60V;1a7dX;1a7fV;1a8aX;1a90V;1a9aX;1aa0V;1aaeX;1ab0V;1adeX;1ae0",
    "V;1aecX;1b00V;1b4dX;1b4eV;1bf4X;1bfcV;1c38X;1c3bV;1c4aX;1c4dV;1c80M432;1c81M434;1c82M43e;1c83M441;",
    "1c84M442;1c86M44a;1c87M463;1c88Ma64b;1c89M1c8a;1c8aV;1c8bX;1c90-1cba>10d0;1cbbX;1cbd-1cbf>10fd;1cc",
    "0V;1cc8X;1cd0V;1cfbX;1d00V;1d2cM61;1d2dMe6;1d2eM62;1d2fV;1d30M64;1d31M65;1d32M1dd;1d33-1d3a>67;1d3",
    "bV;1d3cM6f;1d3dM223;1d3eM70;1d3fM72;1d40M74;1d41M75;1d42M77;1d43M61;1d44M250;1d45M251;1d46M1d02;1d",
    "47M62;1d48M64;1d49M65;1d4aM259;1d4bM25b;1d4cM25c;1d4dM67;1d4eV;1d4fM6b;1d50M6d;1d51M14b;1d52M6f;1d",
    "53M254;1d54M1d16;1d55M1d17;1d56M70;1d57M74;1d58M75;1d59M1d1d;1d5aM26f;1d5bM76;1d5cM1d25;1d5d-1d5f>",
    "3b2;1d60M3c6;1d61M3c7;1d62M69;1d63M72;1d64M75;1d65M76;1d66M3b2;1d67M3b3;1d68M3c1;1d69M3c6;1d6aM3c7",
    ";1d6bV;1d78M43d;1d79V;1d9bM252;1d9cM63;1d9dM255;1d9eMf0;1d9fM25c;1da0M66;1da1M25f;1da2M261;1da3M26",
    "5;1da4-1da6>268;1da7M1d7b;1da8M29d;1da9M26d;1daaM1d85;1dabM29f;1dacM271;1dadM270;1dae-1db1>272;1db",
    "2M278;1db3M282;1db4M283;1db5M1ab;1db6M289;1db7M28a;1db8M1d1c;1db9M28b;1dbaM28c;1dbbM7a;1dbc-1dbe>2",
    "90;1dbfM3b8;1dc0V;1e00M1e01;1e01V;1e02M1e03;1e03V;1e04M1e05;1e05V;1e06M1e07;1e07V;1e08M1e09;1e09V;",
    "1e0aM1e0b;1e0bV;1e0cM1e0d;1e0dV;1e0eM1e0f;1e0fV;1e10M1e11;1e11V;1e12M1e13;1e13V;1e14M1e15;1e15V;1e",
    "16M1e17;1e17V;1e18M1e19;1e19V;1e1aM1e1b;1e1bV;1e1cM1e1d;1e1dV;1e1eM1e1f;1e1fV;1e20M1e21;1e21V;1e22",
    "M1e23;1e23V;1e24M1e25;1e25V;1e26M1e27;1e27V;1e28M1e29;1e29V;1e2aM1e2b;1e2bV;1e2cM1e2d;1e2dV;1e2eM1",
    "e2f;1e2fV;1e30M1e31;1e31V;1e32M1e33;1e33V;1e34M1e35;1e35V;1e36M1e37;1e37V;1e38M1e39;1e39V;1e3aM1e3",
    "b;1e3bV;1e3cM1e3d;1e3dV;1e3eM1e3f;1e3fV;1e40M1e41;1e41V;1e42M1e43;1e43V;1e44M1e45;1e45V;1e46M1e47;",
    "1e47V;1e48M1e49;1e49V;1e4aM1e4b;1e4bV;1e4cM1e4d;1e4dV;1e4eM1e4f;1e4fV;1e50M1e51;1e51V;1e52M1e53;1e",
    "53V;1e54M1e55;1e55V;1e56M1e57;1e57V;1e58M1e59;1e59V;1e5aM1e5b;1e5bV;1e5cM1e5d;1e5dV;1e5eM1e5f;1e5f",
    "V;1e60M1e61;1e61V;1e62M1e63;1e63V;1e64M1e65;1e65V;1e66M1e67;1e67V;1e68M1e69;1e69V;1e6aM1e6b;1e6bV;",
    "1e6cM1e6d;1e6dV;1e6eM1e6f;1e6fV;1e70M1e71;1e71V;1e72M1e73;1e73V;1e74M1e75;1e75V;1e76M1e77;1e77V;1e",
    "78M1e79;1e79V;1e7aM1e7b;1e7bV;1e7cM1e7d;1e7dV;1e7eM1e7f;1e7fV;1e80M1e81;1e81V;1e82M1e83;1e83V;1e84",
    "M1e85;1e85V;1e86M1e87;1e87V;1e88M1e89;1e89V;1e8aM1e8b;1e8bV;1e8cM1e8d;1e8dV;1e8eM1e8f;1e8fV;1e90M1",
    "e91;1e91V;1e92M1e93;1e93V;1e94M1e95;1e95V;1e9aM61,2be;1e9bM1e61;1e9cV;1e9eMdf;1e9fV;1ea0M1ea1;1ea1",
    "V;1ea2M1ea3;1ea3V;1ea4M1ea5;1ea5V;1ea6M1ea7;1ea7V;1ea8M1ea9;1ea9V;1eaaM1eab;1eabV;1eacM1ead;1eadV;",
    "1eaeM1eaf;1eafV;1eb0M1eb1;1eb1V;1eb2M1eb3;1eb3V;1eb4M1eb5;1eb5V;1eb6M1eb7;1eb7V;1eb8M1eb9;1eb9V;1e",
    "baM1ebb;1ebbV;1ebcM1ebd;1ebdV;1ebeM1ebf;1ebfV;1ec0M1ec1;1ec1V;1ec2M1ec3;1ec3V;1ec4M1ec5;1ec5V;1ec6",
    "M1ec7;1ec7V;1ec8M1ec9;1ec9V;1ecaM1ecb;1ecbV;1eccM1ecd;1ecdV;1eceM1ecf;1ecfV;1ed0M1ed1;1ed1V;1ed2M1",
    "ed3;1ed3V;1ed4M1ed5;1ed5V;1ed6M1ed7;1ed7V;1ed8M1ed9;1ed9V;1edaM1edb;1edbV;1edcM1edd;1eddV;1edeM1ed",
    "f;1edfV;1ee0M1ee1;1ee1V;1ee2M1ee3;1ee3V;1ee4M1ee5;1ee5V;1ee6M1ee7;1ee7V;1ee8M1ee9;1ee9V;1eeaM1eeb;",
    "1eebV;1eecM1eed;1eedV;1eeeM1eef;1eefV;1ef0M1ef1;1ef1V;1ef2M1ef3;1ef3V;1ef4M1ef5;1ef5V;1ef6M1ef7;1e",
    "f7V;1ef8M1ef9;1ef9V;1efaM1efb;1efbV;1efcM1efd;1efdV;1efeM1eff;1effV;1f08-1f0f>1f00;1f10V;1f16X;1f1",
    "8-1f1d>1f10;1f1eX;1f20V;1f28-1f2f>1f20;1f30V;1f38-1f3f>1f30;1f40V;1f46X;1f48-1f4d>1f40;1f4eX;1f50V",
    ";1f58X;1f59M1f51;1f5aX;1f5bM1f53;1f5cX;1f5dM1f55;1f5eX;1f5fM1f57;1f60V;1f68-1f6f>1f60;1f70V;1f71M3",
    "ac;1f72V;1f73M3ad;1f74V;1f75M3ae;1f76V;1f77M3af;1f78V;1f79M3cc;1f7aV;1f7bM3cd;1f7cV;1f7dM3ce;1f7eX",
    ";1f80M1f00,3b9;1f81M1f01,3b9;1f82M1f02,3b9;1f83M1f03,3b9;1f84M1f04,3b9;1f85M1f05,3b9;1f86M1f06,3b9",
    ";1f87M1f07,3b9;1f88M1f00,3b9;1f89M1f01,3b9;1f8aM1f02,3b9;1f8bM1f03,3b9;1f8cM1f04,3b9;1f8dM1f05,3b9",
    ";1f8eM1f06,3b9;1f8fM1f07,3b9;1f90M1f20,3b9;1f91M1f21,3b9;1f92M1f22,3b9;1f93M1f23,3b9;1f94M1f24,3b9",
    ";1f95M1f25,3b9;1f96M1f26,3b9;1f97M1f27,3b9;1f98M1f20,3b9;1f99M1f21,3b9;1f9aM1f22,3b9;1f9bM1f23,3b9",
    ";1f9cM1f24,3b9;1f9dM1f25,3b9;1f9eM1f26,3b9;1f9fM1f27,3b9;1fa0M1f60,3b9;1fa1M1f61,3b9;1fa2M1f62,3b9",
    ";1fa3M1f63,3b9;1fa4M1f64,3b9;1fa5M1f65,3b9;1fa6M1f66,3b9;1fa7M1f67,3b9;1fa8M1f60,3b9;1fa9M1f61,3b9",
    ";1faaM1f62,3b9;1fabM1f63,3b9;1facM1f64,3b9;1fadM1f65,3b9;1faeM1f66,3b9;1fafM1f67,3b9;1fb0V;1fb2M1f",
    "70,3b9;1fb3M3b1,3b9;1fb4M3ac,3b9;1fb5X;1fb6V;1fb7M1fb6,3b9;1fb8M1fb0;1fb9M1fb1;1fbaM1f70;1fbbM3ac;",
    "1fbcM3b1,3b9;1fbdM20,313;1fbeM3b9;1fbfM20,313;1fc0M20,342;1fc1M20,308,342;1fc2M1f74,3b9;1fc3M3b7,3",
    "b9;1fc4M3ae,3b9;1fc5X;1fc6V;1fc7M1fc6,3b9;1fc8M1f72;1fc9M3ad;1fcaM1f74;1fcbM3ae;1fccM3b7,3b9;1fcdM",
    "20,313,300;1fceM20,313,301;1fcfM20,313,342;1fd0V;1fd3M390;1fd4X;1fd6V;1fd8M1fd0;1fd9M1fd1;1fdaM1f7",
    "6;1fdbM3af;1fdcX;1fddM20,314,300;1fdeM20,314,301;1fdfM20,314,342;1fe0V;1fe3M3b0;1fe4V;1fe8M1fe0;1f",
    "e9M1fe1;1feaM1f7a;1febM3cd;1fecM1fe5;1fedM20,308,300;1feeM20,308,301;1fefM60;1ff0X;1ff2M1f7c,3b9;1",
    "ff3M3c9,3b9;1ff4M3ce,3b9;1ff5X;1ff6V;1ff7M1ff6,3b9;1ff8M1f78;1ff9M3cc;1ffaM1f7c;1ffbM3ce;1ffcM3c9,",
    "3b9;1ffdM20,301;1ffeM20,314;1fffX;2000M20;200bI;200cD;200eX;2010V;2011M2010;2012V;2017M20,333;2018",
    "V;2024X;2027V;2028X;202fM20;2030V;2033M2032,2032;2034M2032,2032,2032;2035V;2036M2035,2035;2037M203",
    "5,2035,2035;2038V;203cM21,21;203dV;203eM20,305;203fV;2047M3f,3f;2048M3f,21;2049M21,3f;204aV;2057M2",
    "032,2032,2032,2032;2058V;205fM20;2060I;2065X;206aI;2070M30;2071M69;2072X;2074-2079>34;207aM2b;207b",
    "M2212;207cM3d;207dM28;207eM29;207fM6e;2080-2089>30;208aM2b;208bM2212;208cM3d;208dM28;208eM29;208fX",
    ";2090M61;2091M65;2092M6f;2093M78;2094M259;2095M68;2096-2099>6b;209aM70;209bM73;209cM74;209dX;20a0V",
    ";20a8M72,73;20a9V;20c2X;20d0V;20f1X;2100M61,2f,63;2101M61,2f,73;2102M63;2103Mb0,63;2104V;2105M63,2",
    "f,6f;2106M63,2f,75;2107M25b;2108V;2109Mb0,66;210aM67;210bM68;210fM127;2110M69;2112M6c;2114V;2115M6",
    "e;2116M6e,6f;2117V;2119-211b>70;211eV;2120M73,6d;2121M74,65,6c;2122M74,6d;2123V;2124M7a;2125V;2126",
    "M3c9;2127V;2128M7a;2129V;212aM6b;212bMe5;212cM62;212dM63;212eV;212fM65;2131M66;2132M214e;2133M6d;2",
    "134M6f;2135-2138>5d0;2139M69;213aV;213bM66,61,78;213cM3c0;213dM3b3;213fM3c0;2140M2211;2141V;2145M6",
    "4;2147M65;2148M69;2149M6a;214aV;2150M31,2044,37;2151M31,2044,39;2152M31,2044,31,30;2153M31,2044,33",
    ";2154M32,2044,33;2155M31,2044,35;2156M32,2044,35;2157M33,2044,35;2158M34,2044,35;2159M31,2044,36;2",
    "15aM35,2044,36;215bM31,2044,38;215cM33,2044,38;215dM35,2044,38;215eM37,2044,38;215fM31,2044;2160M6",
    "9;2161M69,69;2162M69,69,69;2163M69,76;2164M76;2165M76,69;2166M76,69,69;2167M76,69,69,69;2168M69,78",
    ";2169M78;216aM78,69;216bM78,69,69;216cM6c;216dM63;216eM64;216fM6d;2170M69;2171M69,69;2172M69,69,69",
    ";2173M69,76;2174M76;2175M76,69;2176M76,69,69;2177M76,69,69,69;2178M69,78;2179M78;217aM78,69;217bM7",
    "8,69,69;217cM6c;217dM63;217eM64;217fM6d;2180V;2183M2184;2184V;2189M30,2044,33;218aV;218cX;2190V;22",
    "2cM222b,222b;222dM222b,222b,222b;222eV;222fM222e,222e;2230M222e,222e,222e;2231V;2329M3008;232aM300",
    "9;232bV;242aX;2440V;244bX;2460-2468>31;2469M31,30;246aM31,31;246bM31,32;246cM31,33;246dM31,34;246e",
    "M31,35;246fM31,36;2470M31,37;2471M31,38;2472M31,39;2473M32,30;2474M28,31,29;2475M28,32,29;2476M28,",
    "33,29;2477M28,34,29;2478M28,35,29;2479M28,36,29;247aM28,37,29;247bM28,38,29;247cM28,39,29;247dM28,",
    "31,30,29;247eM28,31,31,29;247fM28,31,32,29;2480M28,31,33,29;2481M28,31,34,29;2482M28,31,35,29;2483",
    "M28,31,36,29;2484M28,31,37,29;2485M28,31,38,29;2486M28,31,39,29;2487M28,32,30,29;2488X;249cM28,61,",
    "29;249dM28,62,29;249eM28,63,29;249fM28,64,29;24a0M28,65,29;24a1M28,66,29;24a2M28,67,29;24a3M28,68,",
    "29;24a4M28,69,29;24a5M28,6a,29;24a6M28,6b,29;24a7M28,6c,29;24a8M28,6d,29;24a9M28,6e,29;24aaM28,6f,",
    "29;24abM28,70,29;24acM28,71,29;24adM28,72,29;24aeM28,73,29;24afM28,74,29;24b0M28,75,29;24b1M28,76,",
    "29;24b2M28,77,29;24b3M28,78,29;24b4M28,79,29;24b5M28,7a,29;24b6-24cf>61;24d0-24e9>61;24eaM30;24ebV",
    ";2a0cM222b,222b,222b,222b;2a0dV;2a74M3a,3a,3d;2a75M3d,3d;2a76M3d,3d,3d;2a77V;2adcM2add,338;2addV;2",
    "b74X;2b76V;2c00-2c2f>2c30;2c30V;2c60M2c61;2c61V;2c62M26b;2c63M1d7d;2c64M27d;2c65V;2c67M2c68;2c68V;",
    "2c69M2c6a;2c6aV;2c6bM2c6c;2c6cV;2c6dM251;2c6eM271;2c6fM250;2c70M252;2c71V;2c72M2c73;2c73V;2c75M2c7",
    "6;2c76V;2c7cM6a;2c7dM76;2c7eM23f;2c7fM240;2c80M2c81;2c81V;2c82M2c83;2c83V;2c84M2c85;2c85V;2c86M2c8",
    "7;2c87V;2c88M2c89;2c89V;2c8aM2c8b;2c8bV;2c8cM2c8d;2c8dV;2c8eM2c8f;2c8fV;2c90M2c91;2c91V;2c92M2c93;",
    "2c93V;2c94M2c95;2c95V;2c96M2c97;2c97V;2c98M2c99;2c99V;2c9aM2c9b;2c9bV;2c9cM2c9d;2c9dV;2c9eM2c9f;2c",
    "9fV;2ca0M2ca1;2ca1V;2ca2M2ca3;2ca3V;2ca4M2ca5;2ca5V;2ca6M2ca7;2ca7V;2ca8M2ca9;2ca9V;2caaM2cab;2cab",
    "V;2cacM2cad;2cadV;2caeM2caf;2cafV;2cb0M2cb1;2cb1V;2cb2M2cb3;2cb3V;2cb4M2cb5;2cb5V;2cb6M2cb7;2cb7V;",
    "2cb8M2cb9;2cb9V;2cbaM2cbb;2cbbV;2cbcM2cbd;2cbdV;2cbeM2cbf;2cbfV;2cc0M2cc1;2cc1V;2cc2M2cc3;2cc3V;2c",
    "c4M2cc5;2cc5V;2cc6M2cc7;2cc7V;2cc8M2cc9;2cc9V;2ccaM2ccb;2ccbV;2cccM2ccd;2ccdV;2cceM2ccf;2ccfV;2cd0",
    "M2cd1;2cd1V;2cd2M2cd3;2cd3V;2cd4M2cd5;2cd5V;2cd6M2cd7;2cd7V;2cd8M2cd9;2cd9V;2cdaM2cdb;2cdbV;2cdcM2",
    "cdd;2cddV;2cdeM2cdf;2cdfV;2ce0M2ce1;2ce1V;2ce2M2ce3;2ce3V;2cebM2cec;2cecV;2cedM2cee;2ceeV;2cf2M2cf",
    "3;2cf3V;2cf4X;2cf9V;2d26X;2d27V;2d28X;2d2dV;2d2eX;2d30V;2d68X;2d6fM2d61;2d70V;2d71X;2d7fV;2d97X;2d",
    "a0V;2da7X;2da8V;2dafX;2db0V;2db7X;2db8V;2dbfX;2dc0V;2dc7X;2dc8V;2dcfX;2dd0V;2dd7X;2dd8V;2ddfX;2de0",
    "V;2e5eX;2e80V;2e9aX;2e9bV;2e9fM6bcd;2ea0V;2ef3M9f9f;2ef4X;2f00M4e00;2f01M4e28;2f02M4e36;2f03M4e3f;",
    "2f04M4e59;2f05M4e85;2f06M4e8c;2f07M4ea0;2f08M4eba;2f09M513f;2f0aM5165;2f0bM516b;2f0cM5182;2f0dM519",
    "6;2f0eM51ab;2f0fM51e0;2f10M51f5;2f11M5200;2f12M529b;2f13M52f9;2f14M5315;2f15M531a;2f16M5338;2f17M5",
    "341;2f18M535c;2f19M5369;2f1aM5382;2f1bM53b6;2f1cM53c8;2f1dM53e3;2f1eM56d7;2f1fM571f;2f20M58eb;2f21",
    "M5902;2f22M590a;2f23M5915;2f24M5927;2f25M5973;2f26M5b50;2f27M5b80;2f28M5bf8;2f29M5c0f;2f2aM5c22;2f",
    "2bM5c38;2f2cM5c6e;2f2dM5c71;2f2eM5ddb;2f2fM5de5;2f30M5df1;2f31M5dfe;2f32M5e72;2f33M5e7a;2f34M5e7f;",
    "2f35M5ef4;2f36M5efe;2f37M5f0b;2f38M5f13;2f39M5f50;2f3aM5f61;2f3bM5f73;2f3cM5fc3;2f3dM6208;2f3eM623",
    "6;2f3fM624b;2f40M652f;2f41M6534;2f42M6587;2f43M6597;2f44M65a4;2f45M65b9;2f46M65e0;2f47M65e5;2f48M6",
    "6f0;2f49M6708;2f4aM6728;2f4bM6b20;2f4cM6b62;2f4dM6b79;2f4eM6bb3;2f4fM6bcb;2f50M6bd4;2f51M6bdb;2f52",
    "M6c0f;2f53M6c14;2f54M6c34;2f55M706b;2f56M722a;2f57M7236;2f58M723b;2f59M723f;2f5aM7247;2f5bM7259;2f",
    "5cM725b;2f5dM72ac;2f5eM7384;2f5fM7389;2f60M74dc;2f61M74e6;2f62M7518;2f63M751f;2f64M7528;2f65M7530;",
    "2f66M758b;2f67M7592;2f68M7676;2f69M767d;2f6aM76ae;2f6bM76bf;2f6cM76ee;2f6dM77db;2f6eM77e2;2f6fM77f",
    "3;2f70M793a;2f71M79b8;2f72M79be;2f73M7a74;2f74M7acb;2f75M7af9;2f76M7c73;2f77M7cf8;2f78M7f36;2f79M7",
    "f51;2f7aM7f8a;2f7bM7fbd;2f7cM8001;2f7dM800c;2f7eM8012;2f7fM8033;2f80M807f;2f81M8089;2f82M81e3;2f83",
    "M81ea;2f84M81f3;2f85M81fc;2f86M820c;2f87M821b;2f88M821f;2f89M826e;2f8aM8272;2f8bM8278;2f8cM864d;2f",
    "8dM866b;2f8eM8840;2f8fM884c;2f90M8863;2f91M897e;2f92M898b;2f93M89d2;2f94M8a00;2f95M8c37;2f96M8c46;",
    "2f97M8c55;2f98M8c78;2f99M8c9d;2f9aM8d64;2f9bM8d70;2f9cM8db3;2f9dM8eab;2f9eM8eca;2f9fM8f9b;2fa0M8fb",
    "0;2fa1M8fb5;2fa2M9091;2fa3M9149;2fa4M91c6;2fa5M91cc;2fa6M91d1;2fa7M9577;2fa8M9580;2fa9M961c;2faaM9",
    "6b6;2fabM96b9;2facM96e8;2fadM9751;2faeM975e;2fafM9762;2fb0M9769;2fb1M97cb;2fb2M97ed;2fb3M97f3;2fb4",
    "M9801;2fb5M98a8;2fb6M98db;2fb7M98df;2fb8M9996;2fb9M9999;2fbaM99ac;2fbbM9aa8;2fbcM9ad8;2fbdM9adf;2f",
    "beM9b25;2fbfM9b2f;2fc0M9b32;2fc1M9b3c;2fc2M9b5a;2fc3M9ce5;2fc4M9e75;2fc5M9e7f;2fc6M9ea5;2fc7M9ebb;",
    "2fc8M9ec3;2fc9M9ecd;2fcaM9ed1;2fcbM9ef9;2fccM9efd;2fcdM9f0e;2fceM9f13;2fcfM9f20;2fd0M9f3b;2fd1M9f4",
    "a;2fd2M9f52;2fd3M9f8d;2fd4M9f9c;2fd5M9fa0;2fd6X;3000M20;3001V;3002M2e;3003V;3036M3012;3037V;3038M5",
    "341;3039M5344;303aM5345;303bV;3040X;3041V;3097X;3099V;309bM20,3099;309cM20,309a;309dV;309fM3088,30",
    "8a;30a0V;30ffM30b3,30c8;3100X;3105V;3130X;3131M1100;3132M1101;3133M11aa;3134M1102;3135M11ac;3136M1",
    "1ad;3137-3139>1103;313a-313f>11b0;3140M111a;3141-3143>1106;3144M1121;3145-314e>1109;314f-3163>1161",
    ";3164I;3165M1114;3166M1115;3167M11c7;3168M11c8;3169M11cc;316aM11ce;316bM11d3;316cM11d7;316dM11d9;3",
    "16eM111c;316fM11dd;3170M11df;3171M111d;3172M111e;3173M1120;3174M1122;3175M1123;3176M1127;3177M1129",
    ";3178-317c>112b;317dM1132;317eM1136;317fM1140;3180M1147;3181M114c;3182M11f1;3183M11f2;3184-3186>11",
    "57;3187M1184;3188M1185;3189M1188;318aM1191;318bM1192;318cM1194;318dM119e;318eM11a1;318fX;3190V;319",
    "2M4e00;3193M4e8c;3194M4e09;3195M56db;3196M4e0a;3197M4e2d;3198M4e0b;3199M7532;319aM4e59;319bM4e19;3",
    "19cM4e01;319dM5929;319eM5730;319fM4eba;31a0V;31e6X;31f0V;3200M28,1100,29;3201M28,1102,29;3202M28,1",
    "103,29;3203M28,1105,29;3204M28,1106,29;3205M28,1107,29;3206M28,1109,29;3207M28,110b,29;3208M28,110",
    "c,29;3209M28,110e,29;320aM28,110f,29;320bM28,1110,29;320cM28,1111,29;320dM28,1112,29;320eM28,ac00,",
    "29;320fM28,b098,29;3210M28,b2e4,29;3211M28,b77c,29;3212M28,b9c8,29;3213M28,bc14,29;3214M28,c0ac,29",
    ";3215M28,c544,29;3216M28,c790,29;3217M28,cc28,29;3218M28,ce74,29;3219M28,d0c0,29;321aM28,d30c,29;3",
    "21bM28,d558,29;321cM28,c8fc,29;321dM28,c624,c804,29;321eM28,c624,d6c4,29;321fX;3220M28,4e00,29;322",
    "1M28,4e8c,29;3222M28,4e09,29;3223M28,56db,29;3224M28,4e94,29;3225M28,516d,29;3226M28,4e03,29;3227M",
    "28,516b,29;3228M28,4e5d,29;3229M28,5341,29;322aM28,6708,29;322bM28,706b,29;322cM28,6c34,29;322dM28",
    ",6728,29;322eM28,91d1,29;322fM28,571f,29;3230M28,65e5,29;3231M28,682a,29;3232M28,6709,29;3233M28,7",
    "93e,29;3234M28,540d,29;3235M28,7279,29;3236M28,8ca1,29;3237M28,795d,29;3238M28,52b4,29;3239M28,4ee",
    "3,29;323aM28,547c,29;323bM28,5b66,29;323cM28,76e3,29;323dM28,4f01,29;323eM28,8cc7,29;323fM28,5354,",
    "29;3240M28,796d,29;3241M28,4f11,29;3242M28,81ea,29;3243M28,81f3,29;3244M554f;3245M5e7c;3246M6587;3",
    "247M7b8f;3248V;3250M70,74,65;3251M32,31;3252M32,32;3253M32,33;3254M32,34;3255M32,35;3256M32,36;325",
    "7M32,37;3258M32,38;3259M32,39;325aM33,30;325bM33,31;325cM33,32;325dM33,33;325eM33,34;325fM33,35;32",
    "60M1100;3261M1102;3262M1103;3263-3265>1105;3266M1109;3267M110b;3268M110c;3269-326d>110e;326eMac00;",
    "326fMb098;3270Mb2e4;3271Mb77c;3272Mb9c8;3273Mbc14;3274Mc0ac;3275Mc544;3276Mc790;3277Mcc28;3278Mce7",
    "4;3279Md0c0;327aMd30c;327bMd558;327cMcc38,ace0;327dMc8fc,c758;327eMc6b0;327fV;3280M4e00;3281M4e8c;",
    "3282M4e09;3283M56db;3284M4e94;3285M516d;3286M4e03;3287M516b;3288M4e5d;3289M5341;328aM6708;328bM706",
    "b;328cM6c34;328dM6728;328eM91d1;328fM571f;3290M65e5;3291M682a;3292M6709;3293M793e;3294M540d;3295M7",
    "279;3296M8ca1;3297M795d;3298M52b4;3299M79d8;329aM7537;329bM5973;329cM9069;329dM512a;329eM5370;329f",
    "M6ce8;32a0M9805;32a1M4f11;32a2M5199;32a3M6b63;32a4M4e0a;32a5M4e2d;32a6M4e0b;32a7M5de6;32a8M53f3;32",
    "a9M533b;32aaM5b97;32abM5b66;32acM76e3;32adM4f01;32aeM8cc7;32afM5354;32b0M591c;32b1M33,36;32b2M33,3",
    "7;32b3M33,38;32b4M33,39;32b5M34,30;32b6M34,31;32b7M34,32;32b8M34,33;32b9M34,34;32baM34,35;32bbM34,",
    "36;32bcM34,37;32bdM34,38;32beM34,39;32bfM35,30;32c0M31,6708;32c1M32,6708;32c2M33,6708;32c3M34,6708",
    ";32c4M35,6708;32c5M36,6708;32c6M37,6708;32c7M38,6708;32c8M39,6708;32c9M31,30,6708;32caM31,31,6708;",
    "32cbM31,32,6708;32ccM68,67;32cdM65,72,67;32ceM65,76;32cfM6c,74,64;32d0M30a2;32d1M30a4;32d2M30a6;32",
    "d3M30a8;32d4M30aa;32d5M30ab;32d6M30ad;32d7M30af;32d8M30b1;32d9M30b3;32daM30b5;32dbM30b7;32dcM30b9;",
    "32ddM30bb;32deM30bd;32dfM30bf;32e0M30c1;32e1M30c4;32e2M30c6;32e3M30c8;32e4-32e9>30ca;32eaM30d2;32e",
    "bM30d5;32ecM30d8;32edM30db;32ee-32f2>30de;32f3M30e4;32f4M30e6;32f5-32fa>30e8;32fb-32fe>30ef;32ffM4",
    "ee4,548c;3300M30a2,30d1,30fc,30c8;3301M30a2,30eb,30d5,30a1;3302M30a2,30f3,30da,30a2;3303M30a2,30fc",
    ",30eb;3304M30a4,30cb,30f3,30b0;3305M30a4,30f3,30c1;3306M30a6,30a9,30f3;3307M30a8,30b9,30af,30fc,30",
    "c9;3308M30a8,30fc,30ab,30fc;3309M30aa,30f3,30b9;330aM30aa,30fc,30e0;330bM30ab,30a4,30ea;330cM30ab,",
    "30e9,30c3,30c8;330dM30ab,30ed,30ea,30fc;330eM30ac,30ed,30f3;330fM30ac,30f3,30de;3310M30ae,30ac;331",
    "1M30ae,30cb,30fc;3312M30ad,30e5,30ea,30fc;3313M30ae,30eb,30c0,30fc;3314M30ad,30ed;3315M30ad,30ed,3",
    "0b0,30e9,30e0;3316M30ad,30ed,30e1,30fc,30c8,30eb;3317M30ad,30ed,30ef,30c3,30c8;3318M30b0,30e9,30e0",
    ";3319M30b0,30e9,30e0,30c8,30f3;331aM30af,30eb,30bc,30a4,30ed;331bM30af,30ed,30fc,30cd;331cM30b1,30",
    "fc,30b9;331dM30b3,30eb,30ca;331eM30b3,30fc,30dd;331fM30b5,30a4,30af,30eb;3320M30b5,30f3,30c1,30fc,",
    "30e0;3321M30b7,30ea,30f3,30b0;3322M30bb,30f3,30c1;3323M30bb,30f3,30c8;3324M30c0,30fc,30b9;3325M30c",
    "7,30b7;3326M30c9,30eb;3327M30c8,30f3;3328M30ca,30ce;3329M30ce,30c3,30c8;332aM30cf,30a4,30c4;332bM3",
    "0d1,30fc,30bb,30f3,30c8;332cM30d1,30fc,30c4;332dM30d0,30fc,30ec,30eb;332eM30d4,30a2,30b9,30c8,30eb",
    ";332fM30d4,30af,30eb;3330M30d4,30b3;3331M30d3,30eb;3332M30d5,30a1,30e9,30c3,30c9;3333M30d5,30a3,30",
    "fc,30c8;3334M30d6,30c3,30b7,30a7,30eb;3335M30d5,30e9,30f3;3336M30d8,30af,30bf,30fc,30eb;3337M30da,",
    "30bd;3338M30da,30cb,30d2;3339M30d8,30eb,30c4;333aM30da,30f3,30b9;333bM30da,30fc,30b8;333cM30d9,30f",
    "c,30bf;333dM30dd,30a4,30f3,30c8;333eM30dc,30eb,30c8;333fM30db,30f3;3340M30dd,30f3,30c9;3341M30db,3",
    "0fc,30eb;3342M30db,30fc,30f3;3343M30de,30a4,30af,30ed;3344M30de,30a4,30eb;3345M30de,30c3,30cf;3346",
    "M30de,30eb,30af;3347M30de,30f3,30b7,30e7,30f3;3348M30df,30af,30ed,30f3;3349M30df,30ea;334aM30df,30",
    "ea,30d0,30fc,30eb;334bM30e1,30ac;334cM30e1,30ac,30c8,30f3;334dM30e1,30fc,30c8,30eb;334eM30e4,30fc,",
    "30c9;334fM30e4,30fc,30eb;3350M30e6,30a2,30f3;3351M30ea,30c3,30c8,30eb;3352M30ea,30e9;3353M30eb,30d",
    "4,30fc;3354M30eb,30fc,30d6,30eb;3355M30ec,30e0;3356M30ec,30f3,30c8,30b2,30f3;3357M30ef,30c3,30c8;3",
    "358M30,70b9;3359M31,70b9;335aM32,70b9;335bM33,70b9;335cM34,70b9;335dM35,70b9;335eM36,70b9;335fM37,",
    "70b9;3360M38,70b9;3361M39,70b9;3362M31,30,70b9;3363M31,31,70b9;3364M31,32,70b9;3365M31,33,70b9;336",
    "6M31,34,70b9;3367M31,35,70b9;3368M31,36,70b9;3369M31,37,70b9;336aM31,38,70b9;336bM31,39,70b9;336cM",
    "32,30,70b9;336dM32,31,70b9;336eM32,32,70b9;336fM32,33,70b9;3370M32,34,70b9;3371M68,70,61;3372M64,6",
    "1;3373M61,75;3374M62,61,72;3375M6f,76;3376M70,63;3377M64,6d;3378M64,6d,32;3379M64,6d,33;337aM69,75",
    ";337bM5e73,6210;337cM662d,548c;337dM5927,6b63;337eM660e,6cbb;337fM682a,5f0f,4f1a,793e;3380M70,61;3",
    "381M6e,61;3382M3bc,61;3383M6d,61;3384M6b,61;3385M6b,62;3386M6d,62;3387M67,62;3388M63,61,6c;3389M6b",
    ",63,61,6c;338aM70,66;338bM6e,66;338cM3bc,66;338dM3bc,67;338eM6d,67;338fM6b,67;3390M68,7a;3391M6b,6",
    "8,7a;3392M6d,68,7a;3393M67,68,7a;3394M74,68,7a;3395M3bc,6c;3396M6d,6c;3397M64,6c;3398M6b,6c;3399M6",
    "6,6d;339aM6e,6d;339bM3bc,6d;339cM6d,6d;339dM63,6d;339eM6b,6d;339fM6d,6d,32;33a0M63,6d,32;33a1M6d,3",
    "2;33a2M6b,6d,32;33a3M6d,6d,33;33a4M63,6d,33;33a5M6d,33;33a6M6b,6d,33;33a7M6d,2215,73;33a8M6d,2215,",
    "73,32;33a9M70,61;33aaM6b,70,61;33abM6d,70,61;33acM67,70,61;33adM72,61,64;33aeM72,61,64,2215,73;33a",
    "fM72,61,64,2215,73,32;33b0M70,73;33b1M6e,73;33b2M3bc,73;33b3M6d,73;33b4M70,76;33b5M6e,76;33b6M3bc,",
    "76;33b7M6d,76;33b8M6b,76;33b9M6d,76;33baM70,77;33bbM6e,77;33bcM3bc,77;33bdM6d,77;33beM6b,77;33bfM6",
    "d,77;33c0M6b,3c9;33c1M6d,3c9;33c2X;33c3M62,71;33c4M63,63;33c5M63,64;33c6M63,2215,6b,67;33c7X;33c8M",
    "64,62;33c9M67,79;33caM68,61;33cbM68,70;33ccM69,6e;33cdM6b,6b;33ceM6b,6d;33cfM6b,74;33d0M6c,6d;33d1",
    "M6c,6e;33d2M6c,6f,67;33d3M6c,78;33d4M6d,62;33d5M6d,69,6c;33d6M6d,6f,6c;33d7M70,68;33d8X;33d9M70,70",
    ",6d;33daM70,72;33dbM73,72;33dcM73,76;33ddM77,62;33deM76,2215,6d;33dfM61,2215,6d;33e0M31,65e5;33e1M",
    "32,65e5;33e2M33,65e5;33e3M34,65e5;33e4M35,65e5;33e5M36,65e5;33e6M37,65e5;33e7M38,65e5;33e8M39,65e5",
    ";33e9M31,30,65e5;33eaM31,31,65e5;33ebM31,32,65e5;33ecM31,33,65e5;33edM31,34,65e5;33eeM31,35,65e5;3",
    "3efM31,36,65e5;33f0M31,37,65e5;33f1M31,38,65e5;33f2M31,39,65e5;33f3M32,30,65e5;33f4M32,31,65e5;33f",
    "5M32,32,65e5;33f6M32,33,65e5;33f7M32,34,65e5;33f8M32,35,65e5;33f9M32,36,65e5;33faM32,37,65e5;33fbM",
    "32,38,65e5;33fcM32,39,65e5;33fdM33,30,65e5;33feM33,31,65e5;33ffM67,61,6c;3400V;a48dX;a490V;a4c7X;a",
    "4d0V;a62cX;a640Ma641;a641V;a642Ma643;a643V;a644Ma645;a645V;a646Ma647;a647V;a648Ma649;a649V;a64aMa6",
    "4b;a64bV;a64cMa64d;a64dV;a64eMa64f;a64fV;a650Ma651;a651V;a652Ma653;a653V;a654Ma655;a655V;a656Ma657",
    ";a657V;a658Ma659;a659V;a65aMa65b;a65bV;a65cMa65d;a65dV;a65eMa65f;a65fV;a660Ma661;a661V;a662Ma663;a",
    "663V;a664Ma665;a665V;a666Ma667;a667V;a668Ma669;a669V;a66aMa66b;a66bV;a66cMa66d;a66dV;a680Ma681;a68",
    "1V;a682Ma683;a683V;a684Ma685;a685V;a686Ma687;a687V;a688Ma689;a689V;a68aMa68b;a68bV;a68cMa68d;a68dV",
    ";a68eMa68f;a68fV;a690Ma691;a691V;a692Ma693;a693V;a694Ma695;a695V;a696Ma697;a697V;a698Ma699;a699V;a",
    "69aMa69b;a69bV;a69cM44a;a69dM44c;a69eV;a6f8X;a700V;a722Ma723;a723V;a724Ma725;a725V;a726Ma727;a727V",
    ";a728Ma729;a729V;a72aMa72b;a72bV;a72cMa72d;a72dV;a72eMa72f;a72fV;a732Ma733;a733V;a734Ma735;a735V;a",
    "736Ma737;a737V;a738Ma739;a739V;a73aMa73b;a73bV;a73cMa73d;a73dV;a73eMa73f;a73fV;a740Ma741;a741V;a74",
    "2Ma743;a743V;a744Ma745;a745V;a746Ma747;a747V;a748Ma749;a749V;a74aMa74b;a74bV;a74cMa74d;a74dV;a74eM",
    "a74f;a74fV;a750Ma751;a751V;a752Ma753;a753V;a754Ma755;a755V;a756Ma757;a757V;a758Ma759;a759V;a75aMa7",
    "5b;a75bV;a75cMa75d;a75dV;a75eMa75f;a75fV;a760Ma761;a761V;a762Ma763;a763V;a764Ma765;a765V;a766Ma767",
    ";a767V;a768Ma769;a769V;a76aMa76b;a76bV;a76cMa76d;a76dV;a76eMa76f;a76fV;a770Ma76f;a771V;a779Ma77a;a",
    "77aV;a77bMa77c;a77cV;a77dM1d79;a77eMa77f;a77fV;a780Ma781;a781V;a782Ma783;a783V;a784Ma785;a785V;a78",
    "6Ma787;a787V;a78bMa78c;a78cV;a78dM265;a78eV;a790Ma791;a791V;a792Ma793;a793V;a796Ma797;a797V;a798Ma",
    "799;a799V;a79aMa79b;a79bV;a79cMa79d;a79dV;a79eMa79f;a79fV;a7a0Ma7a1;a7a1V;a7a2Ma7a3;a7a3V;a7a4Ma7a",
    "5;a7a5V;a7a6Ma7a7;a7a7V;a7a8Ma7a9;a7a9V;a7aaM266;a7abM25c;a7acM261;a7adM26c;a7aeM26a;a7afV;a7b0M29",
    "e;a7b1M287;a7b2M29d;a7b3Mab53;a7b4Ma7b5;a7b5V;a7b6Ma7b7;a7b7V;a7b8Ma7b9;a7b9V;a7baMa7bb;a7bbV;a7bc",
    "Ma7bd;a7bdV;a7beMa7bf;a7bfV;a7c0Ma7c1;a7c1V;a7c2Ma7c3;a7c3V;a7c4Ma794;a7c5M282;a7c6M1d8e;a7c7Ma7c8",
    ";a7c8V;a7c9Ma7ca;a7caV;a7cbM264;a7ccMa7cd;a7cdV;a7ceMa7cf;a7cfV;a7d0Ma7d1;a7d1V;a7d2Ma7d3;a7d3V;a7",
    "d4Ma7d5;a7d5V;a7d6Ma7d7;a7d7V;a7d8Ma7d9;a7d9V;a7daMa7db;a7dbV;a7dcM19b;a7ddX;a7f1M73;a7f2M63;a7f3M",
    "66;a7f4M71;a7f5Ma7f6;a7f6V;a7f8M127;a7f9M153;a7faV;a82dX;a830V;a83aX;a840V;a878X;a880V;a8c6X;a8ceV",
    ";a8daX;a8e0V;a954X;a95fV;a97dX;a980V;a9ceX;a9cfV;a9daX;a9deV;a9ffX;aa00V;aa37X;aa40V;aa4eX;aa50V;a",
    "a5aX;aa5cV;aac3X;aadbV;aaf7X;ab01V;ab07X;ab09V;ab0fX;ab11V;ab17X;ab20V;ab27X;ab28V;ab2fX;ab30V;ab5",
    "cMa727;ab5dMab37;ab5eM26b;ab5fMab52;ab60V;ab69M28d;ab6aV;ab6cX;ab70-abbf>13a0;abc0V;abeeX;abf0V;ab",
    "faX;ac00V;d7a4X;d7b0V;d7c7X;d7cbV;d7fcX;f900M8c48;f901M66f4;f902M8eca;f903M8cc8;f904M6ed1;f905M4e3",
    "2;f906M53e5;f907M9f9c;f909M5951;f90aM91d1;f90bM5587;f90cM5948;f90dM61f6;f90eM7669;f90fM7f85;f910M8",
    "63f;f911M87ba;f912M88f8;f913M908f;f914M6a02;f915M6d1b;f916M70d9;f917M73de;f918M843d;f919M916a;f91a",
    "M99f1;f91bM4e82;f91cM5375;f91dM6b04;f91eM721b;f91fM862d;f920M9e1e;f921M5d50;f922M6feb;f923M85cd;f9",
    "24M8964;f925M62c9;f926M81d8;f927M881f;f928M5eca;f929M6717;f92aM6d6a;f92bM72fc;f92cM90ce;f92dM4f86;",
    "f92eM51b7;f92fM52de;f930M64c4;f931M6ad3;f932M7210;f933M76e7;f934M8001;f935M8606;f936M865c;f937M8de",
    "f;f938M9732;f939M9b6f;f93aM9dfa;f93bM788c;f93cM797f;f93dM7da0;f93eM83c9;f93fM9304;f940M9e7f;f941M8",
    "ad6;f942M58df;f943M5f04;f944M7c60;f945M807e;f946M7262;f947M78ca;f948M8cc2;f949M96f7;f94aM58d8;f94b",
    "M5c62;f94cM6a13;f94dM6dda;f94eM6f0f;f94fM7d2f;f950M7e37;f951M964b;f952M52d2;f953M808b;f954M51dc;f9",
    "55M51cc;f956M7a1c;f957M7dbe;f958M83f1;f959M9675;f95aM8b80;f95bM62cf;f95cM6a02;f95dM8afe;f95eM4e39;",
    "f95fM5be7;f960M6012;f961M7387;f962M7570;f963M5317;f964M78fb;f965M4fbf;f966M5fa9;f967M4e0d;f968M6cc",
    "c;f969M6578;f96aM7d22;f96bM53c3;f96cM585e;f96dM7701;f96eM8449;f96fM8aaa;f970M6bba;f971M8fb0;f972M6",
    "c88;f973M62fe;f974M82e5;f975M63a0;f976M7565;f977M4eae;f978M5169;f979M51c9;f97aM6881;f97bM7ce7;f97c",
    "M826f;f97dM8ad2;f97eM91cf;f97fM52f5;f980M5442;f981M5973;f982M5eec;f983M65c5;f984M6ffe;f985M792a;f9",
    "86M95ad;f987M9a6a;f988M9e97;f989M9ece;f98aM529b;f98bM66c6;f98cM6b77;f98dM8f62;f98eM5e74;f98fM6190;",
    "f990M6200;f991M649a;f992M6f23;f993M7149;f994M7489;f995M79ca;f996M7df4;f997M806f;f998M8f26;f999M84e",
    "e;f99aM9023;f99bM934a;f99cM5217;f99dM52a3;f99eM54bd;f99fM70c8;f9a0M88c2;f9a1M8aaa;f9a2M5ec9;f9a3M5",
    "ff5;f9a4M637b;f9a5M6bae;f9a6M7c3e;f9a7M7375;f9a8M4ee4;f9a9M56f9;f9aaM5be7;f9abM5dba;f9acM601c;f9ad",
    "M73b2;f9aeM7469;f9afM7f9a;f9b0M8046;f9b1M9234;f9b2M96f6;f9b3M9748;f9b4M9818;f9b5M4f8b;f9b6M79ae;f9",
    "b7M91b4;f9b8M96b8;f9b9M60e1;f9baM4e86;f9bbM50da;f9bcM5bee;f9bdM5c3f;f9beM6599;f9bfM6a02;f9c0M71ce;",
    "f9c1M7642;f9c2M84fc;f9c3M907c;f9c4M9f8d;f9c5M6688;f9c6M962e;f9c7M5289;f9c8M677b;f9c9M67f3;f9caM6d4",
    "1;f9cbM6e9c;f9ccM7409;f9cdM7559;f9ceM786b;f9cfM7d10;f9d0M985e;f9d1M516d;f9d2M622e;f9d3M9678;f9d4M5",
    "02b;f9d5M5d19;f9d6M6dea;f9d7M8f2a;f9d8M5f8b;f9d9M6144;f9daM6817;f9dbM7387;f9dcM9686;f9ddM5229;f9de",
    "M540f;f9dfM5c65;f9e0M6613;f9e1M674e;f9e2M68a8;f9e3M6ce5;f9e4M7406;f9e5M75e2;f9e6M7f79;f9e7M88cf;f9",
    "e8M88e1;f9e9M91cc;f9eaM96e2;f9ebM533f;f9ecM6eba;f9edM541d;f9eeM71d0;f9efM7498;f9f0M85fa;f9f1M96a3;",
    "f9f2M9c57;f9f3M9e9f;f9f4M6797;f9f5M6dcb;f9f6M81e8;f9f7M7acb;f9f8M7b20;f9f9M7c92;f9faM72c0;f9fbM709",
    "9;f9fcM8b58;f9fdM4ec0;f9feM8336;f9ffM523a;fa00M5207;fa01M5ea6;fa02M62d3;fa03M7cd6;fa04M5b85;fa05M6",
    "d1e;fa06M66b4;fa07M8f3b;fa08M884c;fa09M964d;fa0aM898b;fa0bM5ed3;fa0cM5140;fa0dM55c0;fa0eV;fa10M585",
    "a;fa11V;fa12M6674;fa13V;fa15M51de;fa16M732a;fa17M76ca;fa18M793c;fa19M795e;fa1aM7965;fa1bM798f;fa1c",
    "M9756;fa1dM7cbe;fa1eM7fbd;fa1fV;fa20M8612;fa21V;fa22M8af8;fa23V;fa25M9038;fa26M90fd;fa27V;fa2aM98e",
    "f;fa2bM98fc;fa2cM9928;fa2dM9db4;fa2eM90de;fa2fM96b7;fa30M4fae;fa31M50e7;fa32M514d;fa33M52c9;fa34M5",
    "2e4;fa35M5351;fa36M559d;fa37M5606;fa38M5668;fa39M5840;fa3aM58a8;fa3bM5c64;fa3cM5c6e;fa3dM6094;fa3e",
    "M6168;fa3fM618e;fa40M61f2;fa41M654f;fa42M65e2;fa43M6691;fa44M6885;fa45M6d77;fa46M6e1a;fa47M6f22;fa",
    "48M716e;fa49M722b;fa4aM7422;fa4bM7891;fa4cM793e;fa4dM7949;fa4eM7948;fa4fM7950;fa50M7956;fa51M795d;",
    "fa52M798d;fa53M798e;fa54M7a40;fa55M7a81;fa56M7bc0;fa57M7df4;fa58M7e09;fa59M7e41;fa5aM7f72;fa5bM800",
    "5;fa5cM81ed;fa5dM8279;fa5fM8457;fa60M8910;fa61M8996;fa62M8b01;fa63M8b39;fa64M8cd3;fa65M8d08;fa66M8",
    "fb6;fa67M9038;fa68M96e3;fa69M97ff;fa6aM983b;fa6bM6075;fa6cM242ee;fa6dM8218;fa6eX;fa70M4e26;fa71M51",
    "b5;fa72M5168;fa73M4f80;fa74M5145;fa75M5180;fa76M52c7;fa77M52fa;fa78M559d;fa79M5555;fa7aM5599;fa7bM",
    "55e2;fa7cM585a;fa7dM58b3;fa7eM5944;fa7fM5954;fa80M5a62;fa81M5b28;fa82M5ed2;fa83M5ed9;fa84M5f69;fa8",
    "5M5fad;fa86M60d8;fa87M614e;fa88M6108;fa89M618e;fa8aM6160;fa8bM61f2;fa8cM6234;fa8dM63c4;fa8eM641c;f",
    "a8fM6452;fa90M6556;fa91M6674;fa92M6717;fa93M671b;fa94M6756;fa95M6b79;fa96M6bba;fa97M6d41;fa98M6edb",
    ";fa99M6ecb;fa9aM6f22;fa9bM701e;fa9cM716e;fa9dM77a7;fa9eM7235;fa9fM72af;faa0M732a;faa1M7471;faa2M75",
    "06;faa3M753b;faa4M761d;faa5M761f;faa6M76ca;faa7M76db;faa8M76f4;faa9M774a;faaaM7740;faabM78cc;faacM",
    "7ab1;faadM7bc0;faaeM7c7b;faafM7d5b;fab0M7df4;fab1M7f3e;fab2M8005;fab3M8352;fab4M83ef;fab5M8779;fab",
    "6M8941;fab7M8986;fab8M8996;fab9M8abf;fabaM8af8;fabbM8acb;fabcM8b01;fabdM8afe;fabeM8aed;fabfM8b39;f",
    "ac0M8b8a;fac1M8d08;fac2M8f38;fac3M9072;fac4M9199;fac5M9276;fac6M967c;fac7M96e3;fac8M9756;fac9M97db",
    ";facaM97ff;facbM980b;faccM983b;facdM9b12;faceM9f9c;facfM2284a;fad0M22844;fad1M233d5;fad2M3b9d;fad3",
    "M4018;fad4M4039;fad5M25249;fad6M25cd0;fad7M27ed3;fad8M9f43;fad9M9f8e;fadaX;fb00M66,66;fb01M66,69;f",
    "b02M66,6c;fb03M66,66,69;fb04M66,66,6c;fb05M73,74;fb07X;fb13M574,576;fb14M574,565;fb15M574,56b;fb16",
    "M57e,576;fb17M574,56d;fb18X;fb1dM5d9,5b4;fb1eV;fb1fM5f2,5b7;fb20M5e2;fb21M5d0;fb22M5d3;fb23M5d4;fb",
    "24-fb26>5db;fb27M5e8;fb28M5ea;fb29M2b;fb2aM5e9,5c1;fb2bM5e9,5c2;fb2cM5e9,5bc,5c1;fb2dM5e9,5bc,5c2;",
    "fb2eM5d0,5b7;fb2fM5d0,5b8;fb30M5d0,5bc;fb31M5d1,5bc;fb32M5d2,5bc;fb33M5d3,5bc;fb34M5d4,5bc;fb35M5d",
    "5,5bc;fb36M5d6,5bc;fb37X;fb38M5d8,5bc;fb39M5d9,5bc;fb3aM5da,5bc;fb3bM5db,5bc;fb3cM5dc,5bc;fb3dX;fb",
    "3eM5de,5bc;fb3fX;fb40M5e0,5bc;fb41M5e1,5bc;fb42X;fb43M5e3,5bc;fb44M5e4,5bc;fb45X;fb46M5e6,5bc;fb47",
    "M5e7,5bc;fb48M5e8,5bc;fb49M5e9,5bc;fb4aM5ea,5bc;fb4bM5d5,5b9;fb4cM5d1,5bf;fb4dM5db,5bf;fb4eM5e4,5b",
    "f;fb4fM5d0,5dc;fb50M671;fb52M67b;fb56M67e;fb5aM680;fb5eM67a;fb62M67f;fb66M679;fb6aM6a4;fb6eM6a6;fb",
    "72M684;fb76M683;fb7aM686;fb7eM687;fb82M68d;fb84M68c;fb86M68e;fb88M688;fb8aM698;fb8cM691;fb8eM6a9;f",
    "b92M6af;fb96M6b3;fb9aM6b1;fb9eM6ba;fba0M6bb;fba4M6c0;fba6M6c1;fbaaM6be;fbaeM6d2;fbb0M6d3;fbb2V;fbd",
    "3M6ad;fbd7M6c7;fbd9M6c6;fbdbM6c8;fbddM6c7,674;fbdeM6cb;fbe0M6c5;fbe2M6c9;fbe4M6d0;fbe8M649;fbeaM62",
    "6,627;fbecM626,6d5;fbeeM626,648;fbf0M626,6c7;fbf2M626,6c6;fbf4M626,6c8;fbf6M626,6d0;fbf9M626,649;f",
    "bfcM6cc;fc00M626,62c;fc01M626,62d;fc02M626,645;fc03M626,649;fc04M626,64a;fc05M628,62c;fc06M628,62d",
    ";fc07M628,62e;fc08M628,645;fc09M628,649;fc0aM628,64a;fc0bM62a,62c;fc0cM62a,62d;fc0dM62a,62e;fc0eM6",
    "2a,645;fc0fM62a,649;fc10M62a,64a;fc11M62b,62c;fc12M62b,645;fc13M62b,649;fc14M62b,64a;fc15M62c,62d;",
    "fc16M62c,645;fc17M62d,62c;fc18M62d,645;fc19M62e,62c;fc1aM62e,62d;fc1bM62e,645;fc1cM633,62c;fc1dM63",
    "3,62d;fc1eM633,62e;fc1fM633,645;fc20M635,62d;fc21M635,645;fc22M636,62c;fc23M636,62d;fc24M636,62e;f",
    "c25M636,645;fc26M637,62d;fc27M637,645;fc28M638,645;fc29M639,62c;fc2aM639,645;fc2bM63a,62c;fc2cM63a",
    ",645;fc2dM641,62c;fc2eM641,62d;fc2fM641,62e;fc30M641,645;fc31M641,649;fc32M641,64a;fc33M642,62d;fc",
    "34M642,645;fc35M642,649;fc36M642,64a;fc37M643,627;fc38M643,62c;fc39M643,62d;fc3aM643,62e;fc3bM643,",
    "644;fc3cM643,645;fc3dM643,649;fc3eM643,64a;fc3fM644,62c;fc40M644,62d;fc41M644,62e;fc42M644,645;fc4",
    "3M644,649;fc44M644,64a;fc45M645,62c;fc46M645,62d;fc47M645,62e;fc48M645,645;fc49M645,649;fc4aM645,6",
    "4a;fc4bM646,62c;fc4cM646,62d;fc4dM646,62e;fc4eM646,645;fc4fM646,649;fc50M646,64a;fc51M647,62c;fc52",
    "M647,645;fc53M647,649;fc54M647,64a;fc55M64a,62c;fc56M64a,62d;fc57M64a,62e;fc58M64a,645;fc59M64a,64",
    "9;fc5aM64a,64a;fc5bM630,670;fc5cM631,670;fc5dM649,670;fc5eM20,64c,651;fc5fM20,64d,651;fc60M20,64e,",
    "651;fc61M20,64f,651;fc62M20,650,651;fc63M20,651,670;fc64M626,631;fc65M626,632;fc66M626,645;fc67M62",
    "6,646;fc68M626,649;fc69M626,64a;fc6aM628,631;fc6bM628,632;fc6cM628,645;fc6dM628,646;fc6eM628,649;f",
    "c6fM628,64a;fc70M62a,631;fc71M62a,632;fc72M62a,645;fc73M62a,646;fc74M62a,649;fc75M62a,64a;fc76M62b",
    ",631;fc77M62b,632;fc78M62b,645;fc79M62b,646;fc7aM62b,649;fc7bM62b,64a;fc7cM641,649;fc7dM641,64a;fc",
    "7eM642,649;fc7fM642,64a;fc80M643,627;fc81M643,644;fc82M643,645;fc83M643,649;fc84M643,64a;fc85M644,",
    "645;fc86M644,649;fc87M644,64a;fc88M645,627;fc89M645,645;fc8aM646,631;fc8bM646,632;fc8cM646,645;fc8",
    "dM646,646;fc8eM646,649;fc8fM646,64a;fc90M649,670;fc91M64a,631;fc92M64a,632;fc93M64a,645;fc94M64a,6",
    "46;fc95M64a,649;fc96M64a,64a;fc97M626,62c;fc98M626,62d;fc99M626,62e;fc9aM626,645;fc9bM626,647;fc9c",
    "M628,62c;fc9dM628,62d;fc9eM628,62e;fc9fM628,645;fca0M628,647;fca1M62a,62c;fca2M62a,62d;fca3M62a,62",
    "e;fca4M62a,645;fca5M62a,647;fca6M62b,645;fca7M62c,62d;fca8M62c,645;fca9M62d,62c;fcaaM62d,645;fcabM",
    "62e,62c;fcacM62e,645;fcadM633,62c;fcaeM633,62d;fcafM633,62e;fcb0M633,645;fcb1M635,62d;fcb2M635,62e",
    ";fcb3M635,645;fcb4M636,62c;fcb5M636,62d;fcb6M636,62e;fcb7M636,645;fcb8M637,62d;fcb9M638,645;fcbaM6",
    "39,62c;fcbbM639,645;fcbcM63a,62c;fcbdM63a,645;fcbeM641,62c;fcbfM641,62d;fcc0M641,62e;fcc1M641,645;",
    "fcc2M642,62d;fcc3M642,645;fcc4M643,62c;fcc5M643,62d;fcc6M643,62e;fcc7M643,644;fcc8M643,645;fcc9M64",
    "4,62c;fccaM644,62d;fccbM644,62e;fcccM644,645;fccdM644,647;fcceM645,62c;fccfM645,62d;fcd0M645,62e;f",
    "cd1M645,645;fcd2M646,62c;fcd3M646,62d;fcd4M646,62e;fcd5M646,645;fcd6M646,647;fcd7M647,62c;fcd8M647",
    ",645;fcd9M647,670;fcdaM64a,62c;fcdbM64a,62d;fcdcM64a,62e;fcddM64a,645;fcdeM64a,647;fcdfM626,645;fc",
    "e0M626,647;fce1M628,645;fce2M628,647;fce3M62a,645;fce4M62a,647;fce5M62b,645;fce6M62b,647;fce7M633,",
    "645;fce8M633,647;fce9M634,645;fceaM634,647;fcebM643,644;fcecM643,645;fcedM644,645;fceeM646,645;fce",
    "fM646,647;fcf0M64a,645;fcf1M64a,647;fcf2M640,64e,651;fcf3M640,64f,651;fcf4M640,650,651;fcf5M637,64",
    "9;fcf6M637,64a;fcf7M639,649;fcf8M639,64a;fcf9M63a,649;fcfaM63a,64a;fcfbM633,649;fcfcM633,64a;fcfdM",
    "634,649;fcfeM634,64a;fcffM62d,649;fd00M62d,64a;fd01M62c,649;fd02M62c,64a;fd03M62e,649;fd04M62e,64a",
    ";fd05M635,649;fd06M635,64a;fd07M636,649;fd08M636,64a;fd09M634,62c;fd0aM634,62d;fd0bM634,62e;fd0cM6",
    "34,645;fd0dM634,631;fd0eM633,631;fd0fM635,631;fd10M636,631;fd11M637,649;fd12M637,64a;fd13M639,649;",
    "fd14M639,64a;fd15M63a,649;fd16M63a,64a;fd17M633,649;fd18M633,64a;fd19M634,649;fd1aM634,64a;fd1bM62",
    "d,649;fd1cM62d,64a;fd1dM62c,649;fd1eM62c,64a;fd1fM62e,649;fd20M62e,64a;fd21M635,649;fd22M635,64a;f",
    "d23M636,649;fd24M636,64a;fd25M634,62c;fd26M634,62d;fd27M634,62e;fd28M634,645;fd29M634,631;fd2aM633",
    ",631;fd2bM635,631;fd2cM636,631;fd2dM634,62c;fd2eM634,62d;fd2fM634,62e;fd30M634,645;fd31M633,647;fd",
    "32M634,647;fd33M637,645;fd34M633,62c;fd35M633,62d;fd36M633,62e;fd37M634,62c;fd38M634,62d;fd39M634,",
    "62e;fd3aM637,645;fd3bM638,645;fd3cM627,64b;fd3eV;fd50M62a,62c,645;fd51M62a,62d,62c;fd53M62a,62d,64",
    "5;fd54M62a,62e,645;fd55M62a,645,62c;fd56M62a,645,62d;fd57M62a,645,62e;fd58M62c,645,62d;fd5aM62d,64",
    "5,64a;fd5bM62d,645,649;fd5cM633,62d,62c;fd5dM633,62c,62d;fd5eM633,62c,649;fd5fM633,645,62d;fd61M63",
    "3,645,62c;fd62M633,645,645;fd64M635,62d,62d;fd66M635,645,645;fd67M634,62d,645;fd69M634,62c,64a;fd6",
    "aM634,645,62e;fd6cM634,645,645;fd6eM636,62d,649;fd6fM636,62e,645;fd71M637,645,62d;fd73M637,645,645",
    ";fd74M637,645,64a;fd75M639,62c,645;fd76M639,645,645;fd78M639,645,649;fd79M63a,645,645;fd7aM63a,645",
    ",64a;fd7bM63a,645,649;fd7cM641,62e,645;fd7eM642,645,62d;fd7fM642,645,645;fd80M644,62d,645;fd81M644",
    ",62d,64a;fd82M644,62d,649;fd83M644,62c,62c;fd85M644,62e,645;fd87M644,645,62d;fd89M645,62d,62c;fd8a",
    "M645,62d,645;fd8bM645,62d,64a;fd8cM645,62c,62d;fd8dM645,62c,645;fd8eM645,62e,62c;fd8fM645,62e,645;",
    "fd90V;fd92M645,62c,62e;fd93M647,645,62c;fd94M647,645,645;fd95M646,62d,645;fd96M646,62d,649;fd97M64",
    "6,62c,645;fd99M646,62c,649;fd9aM646,645,64a;fd9bM646,645,649;fd9cM64a,645,645;fd9eM628,62e,64a;fd9",
    "fM62a,62c,64a;fda0M62a,62c,649;fda1M62a,62e,64a;fda2M62a,62e,649;fda3M62a,645,64a;fda4M62a,645,649",
    ";fda5M62c,645,64a;fda6M62c,62d,649;fda7M62c,645,649;fda8M633,62e,649;fda9M635,62d,64a;fdaaM634,62d",
    ",64a;fdabM636,62d,64a;fdacM644,62c,64a;fdadM644,645,64a;fdaeM64a,62d,64a;fdafM64a,62c,64a;fdb0M64a",
    ",645,64a;fdb1M645,645,64a;fdb2M642,645,64a;fdb3M646,62d,64a;fdb4M642,645,62d;fdb5M644,62d,645;fdb6",
    "M639,645,64a;fdb7M643,645,64a;fdb8M646,62c,62d;fdb9M645,62e,64a;fdbaM644,62c,645;fdbbM643,645,645;",
    "fdbcM644,62c,645;fdbdM646,62c,62d;fdbeM62c,62d,64a;fdbfM62d,62c,64a;fdc0M645,62c,64a;fdc1M641,645,",
    "64a;fdc2M628,62d,64a;fdc3M643,645,645;fdc4M639,62c,645;fdc5M635,645,645;fdc6M633,62e,64a;fdc7M646,",
    "62c,64a;fdc8V;fdd0X;fdf0M635,644,6d2;fdf1M642,644,6d2;fdf2M627,644,644,647;fdf3M627,643,628,631;fd",
    "f4M645,62d,645,62f;fdf5M635,644,639,645;fdf6M631,633,648,644;fdf7M639,644,64a,647;fdf8M648,633,644",
    ",645;fdf9M635,644,649;fdfaM635,644,649,20,627,644,644,647,20,639,644,64a,647,20,648,633,644,645;fd",
    "fbM62c,644,20,62c,644,627,644,647;fdfcM631,6cc,627,644;fdfdV;fe00I;fe10M2c;fe11M3001;fe12X;fe13M3a",
    ";fe14M3b;fe15M21;fe16M3f;fe17M3016;fe18M3017;fe19X;fe20V;fe30X;fe31M2014;fe32M2013;fe33M5f;fe35M28",
    ";fe36M29;fe37M7b;fe38M7d;fe39M3014;fe3aM3015;fe3bM3010;fe3cM3011;fe3dM300a;fe3eM300b;fe3fM3008;fe4",
    "0M3009;fe41-fe44>300c;fe45V;fe47M5b;fe48M5d;fe49M20,305;fe4dM5f;fe50M2c;fe51M3001;fe52X;fe54M3b;fe",
    "55M3a;fe56M3f;fe57M21;fe58M2014;fe59M28;fe5aM29;fe5bM7b;fe5cM7d;fe5dM3014;fe5eM3015;fe5fM23;fe60M2",
    "6;fe61M2a;fe62M2b;fe63M2d;fe64M3c;fe65M3e;fe66M3d;fe67X;fe68M5c;fe69M24;fe6aM25;fe6bM40;fe6cX;fe70",
    "M20,64b;fe71M640,64b;fe72M20,64c;fe73V;fe74M20,64d;fe75X;fe76M20,64e;fe77M640,64e;fe78M20,64f;fe79",
    "M640,64f;fe7aM20,650;fe7bM640,650;fe7cM20,651;fe7dM640,651;fe7eM20,652;fe7fM640,652;fe80M621;fe81M",
    "622;fe83M623;fe85M624;fe87M625;fe89M626;fe8dM627;fe8fM628;fe93M629;fe95M62a;fe99M62b;fe9dM62c;fea1",
    "M62d;fea5M62e;fea9M62f;feabM630;feadM631;feafM632;feb1M633;feb5M634;feb9M635;febdM636;fec1M637;fec",
    "5M638;fec9M639;fecdM63a;fed1M641;fed5M642;fed9M643;feddM644;fee1M645;fee5M646;fee9M647;feedM648;fe",
    "efM649;fef1M64a;fef5M644,622;fef7M644,623;fef9M644,625;fefbM644,627;fefdX;feffI;ff00X;ff01-ff20>21",
    ";ff21-ff3a>61;ff3b-ff5e>5b;ff5fM2985;ff60M2986;ff61M2e;ff62M300c;ff63M300d;ff64M3001;ff65M30fb;ff6",
    "6M30f2;ff67M30a1;ff68M30a3;ff69M30a5;ff6aM30a7;ff6bM30a9;ff6cM30e3;ff6dM30e5;ff6eM30e7;ff6fM30c3;f",
    "f70M30fc;ff71M30a2;ff72M30a4;ff73M30a6;ff74M30a8;ff75M30aa;ff76M30ab;ff77M30ad;ff78M30af;ff79M30b1",
    ";ff7aM30b3;ff7bM30b5;ff7cM30b7;ff7dM30b9;ff7eM30bb;ff7fM30bd;ff80M30bf;ff81M30c1;ff82M30c4;ff83M30",
    "c6;ff84M30c8;ff85-ff8a>30ca;ff8bM30d2;ff8cM30d5;ff8dM30d8;ff8eM30db;ff8f-ff93>30de;ff94M30e4;ff95M",
    "30e6;ff96-ff9b>30e8;ff9cM30ef;ff9dM30f3;ff9eM3099;ff9fM309a;ffa0I;ffa1M1100;ffa2M1101;ffa3M11aa;ff",
    "a4M1102;ffa5M11ac;ffa6M11ad;ffa7-ffa9>1103;ffaa-ffaf>11b0;ffb0M111a;ffb1-ffb3>1106;ffb4M1121;ffb5-",
    "ffbe>1109;ffbfX;ffc2-ffc7>1161;ffc8X;ffca-ffcf>1167;ffd0X;ffd2-ffd7>116d;ffd8X;ffda-ffdc>1173;ffdd",
    "X;ffe0Ma2;ffe1Ma3;ffe2Mac;ffe3M20,304;ffe4Ma6;ffe5Ma5;ffe6M20a9;ffe7X;ffe8M2502;ffe9-ffec>2190;ffe",
    "dM25a0;ffeeM25cb;ffefX;10000V;1000cX;1000dV;10027X;10028V;1003bX;1003cV;1003eX;1003fV;1004eX;10050",
    "V;1005eX;10080V;100fbX;10100V;10103X;10107V;10134X;10137V;1018fX;10190V;1019dX;101a0V;101a1X;101d0",
    "V;101feX;10280V;1029dX;102a0V;102d1X;102e0V;102fcX;10300V;10324X;1032dV;1034bX;10350V;1037bX;10380",
    "V;1039eX;1039fV;103c4X;103c8V;103d6X;10400-10427>10428;10428V;1049eX;104a0V;104aaX;104b0-104d3>104",
    "d8;104d4X;104d8V;104fcX;10500V;10528X;10530V;10564X;1056fV;10570-1057a>10597;1057bX;1057c-1058a>10",
    "5a3;1058bX;1058c-10592>105b3;10593X;10594M105bb;10595M105bc;10596X;10597V;105a2X;105a3V;105b2X;105",
    "b3V;105baX;105bbV;105bdX;105c0V;105f4X;10600V;10737X;10740V;10756X;10760V;10768X;10780V;10781M2d0;",
    "10782M2d1;10783Me6;10784M299;10785M253;10786X;10787M2a3;10788Mab66;10789M2a5;1078aM2a4;1078bM256;1",
    "078cM257;1078dM1d91;1078eM258;1078fM25e;10790M2a9;10791M264;10792M262;10793M260;10794M29b;10795M12",
    "7;10796M29c;10797M267;10798M284;10799M2aa;1079aM2ab;1079bM26c;1079cM1df04;1079dMa78e;1079eM26e;107",
    "9fM1df05;107a0M28e;107a1M1df06;107a2Mf8;107a3M276;107a4M277;107a5M71;107a6M27a;107a7M1df08;107a8M2",
    "7d;107a9M27e;107aaM280;107abM2a8;107acM2a6;107adMab67;107aeM2a7;107afM288;107b0M2c71;107b1X;107b2M",
    "28f;107b3M2a1;107b4M2a2;107b5M298;107b6-107b8>1c0;107b9M1df0a;107baM1df1e;107bbX;10800V;10806X;108",
    "08V;10809X;1080aV;10836X;10837V;10839X;1083cV;1083dX;1083fV;10856X;10857V;1089fX;108a7V;108b0X;108",
    "e0V;108f3X;108f4V;108f6X;108fbV;1091cX;1091fV;1093aX;1093fV;1095aX;10980V;109b8X;109bcV;109d0X;109",
    "d2V;10a04X;10a05V;10a07X;10a0cV;10a14X;10a15V;10a18X;10a19V;10a36X;10a38V;10a3bX;10a3fV;10a49X;10a",
    "50V;10a59X;10a60V;10aa0X;10ac0V;10ae7X;10aebV;10af7X;10b00V;10b36X;10b39V;10b56X;10b58V;10b73X;10b",
    "78V;10b92X;10b99V;10b9dX;10ba9V;10bb0X;10c00V;10c49X;10c80-10cb2>10cc0;10cb3X;10cc0V;10cf3X;10cfaV",
    ";10d28X;10d30V;10d3aX;10d40V;10d50-10d65>10d70;10d66X;10d69V;10d86X;10d8eV;10d90X;10e60V;10e7fX;10",
    "e80V;10eaaX;10eabV;10eaeX;10eb0V;10eb2X;10ec2V;10ec8X;10ed0V;10ed9X;10efaV;10f28X;10f30V;10f5aX;10",
    "f70V;10f8aX;10fb0V;10fccX;10fe0V;10ff7X;11000V;1104eX;11052V;11076X;1107fV;110bdX;110beV;110c3X;11",
    "0d0V;110e9X;110f0V;110faX;11100V;11135X;11136V;11148X;11150V;11177X;11180V;111e0X;111e1V;111f5X;11",
    "200V;11212X;11213V;11242X;11280V;11287X;11288V;11289X;1128aV;1128eX;1128fV;1129eX;1129fV;112aaX;11",
    "2b0V;112ebX;112f0V;112faX;11300V;11304X;11305V;1130dX;1130fV;11311X;11313V;11329X;1132aV;11331X;11",
    "332V;11334X;11335V;1133aX;1133bV;11345X;11347V;11349X;1134bV;1134eX;11350V;11351X;11357V;11358X;11",
    "35dV;11364X;11366V;1136dX;11370V;11375X;11380V;1138aX;1138bV;1138cX;1138eV;1138fX;11390V;113b6X;11",
    "3b7V;113c1X;113c2V;113c3X;113c5V;113c6X;113c7V;113cbX;113ccV;113d6X;113d7V;113d9X;113e1V;113e3X;11",
    "400V;1145cX;1145dV;11462X;11480V;114c8X;114d0V;114daX;11580V;115b6X;115b8V;115deX;11600V;11645X;11",
    "650V;1165aX;11660V;1166dX;11680V;116baX;116c0V;116caX;116d0V;116e4X;11700V;1171bX;1171dV;1172cX;11",
    "730V;11747X;11800V;1183cX;118a0-118bf>118c0;118c0V;118f3X;118ffV;11907X;11909V;1190aX;1190cV;11914",
    "X;11915V;11917X;11918V;11936X;11937V;11939X;1193bV;11947X;11950V;1195aX;119a0V;119a8X;119aaV;119d8",
    "X;119daV;119e5X;11a00V;11a48X;11a50V;11aa3X;11ab0V;11af9X;11b00V;11b0aX;11b60V;11b68X;11bc0V;11be2",
    "X;11bf0V;11bfaX;11c00V;11c09X;11c0aV;11c37X;11c38V;11c46X;11c50V;11c6dX;11c70V;11c90X;11c92V;11ca8",
    "X;11ca9V;11cb7X;11d00V;11d07X;11d08V;11d0aX;11d0bV;11d37X;11d3aV;11d3bX;11d3cV;11d3eX;11d3fV;11d48",
    "X;11d50V;11d5aX;11d60V;11d66X;11d67V;11d69X;11d6aV;11d8fX;11d90V;11d92X;11d93V;11d99X;11da0V;11daa",
    "X;11db0V;11ddcX;11de0V;11deaX;11ee0V;11ef9X;11f00V;11f11X;11f12V;11f3bX;11f3eV;11f5bX;11fb0V;11fb1",
    "X;11fc0V;11ff2X;11fffV;1239aX;12400V;1246fX;12470V;12475X;12480V;12544X;12f90V;12ff3X;13000V;13430",
    "X;13440V;13456X;13460V;143fbX;14400V;14647X;16100V;1613aX;16800V;16a39X;16a40V;16a5fX;16a60V;16a6a",
    "X;16a6eV;16abfX;16ac0V;16acaX;16ad0V;16aeeX;16af0V;16af6X;16b00V;16b46X;16b50V;16b5aX;16b5bV;16b62",
    "X;16b63V;16b78X;16b7dV;16b90X;16d40V;16d7aX;16e40-16e5f>16e60;16e60V;16e9bX;16ea0-16eb8>16ebb;16eb",
    "9X;16ebbV;16ed4X;16f00V;16f4bX;16f4fV;16f88X;16f8fV;16fa0X;16fe0V;16fe5X;16ff0V;16ff7X;17000V;18cd",
    "6X;18cffV;18d1fX;18d80V;18df3X;1aff0V;1aff4X;1aff5V;1affcX;1affdV;1afffX;1b000V;1b123X;1b132V;1b13",
    "3X;1b150V;1b153X;1b155V;1b156X;1b164V;1b168X;1b170V;1b2fcX;1bc00V;1bc6bX;1bc70V;1bc7dX;1bc80V;1bc8",
    "9X;1bc90V;1bc9aX;1bc9cV;1bca0I;1bca4X;1cc00V;1ccd6-1ccef>61;1ccf0-1ccf9>30;1ccfaV;1ccfdX;1cd00V;1c",
    "eb4X;1cebaV;1ced1X;1cee0V;1cef1X;1cf00V;1cf2eX;1cf30V;1cf47X;1cf50V;1cfc4X;1d000V;1d0f6X;1d100V;1d",
    "127X;1d129V;1d15eM1d157,1d165;1d15fM1d158,1d165;1d160M1d158,1d165,1d16e;1d161M1d158,1d165,1d16f;1d",
    "162M1d158,1d165,1d170;1d163M1d158,1d165,1d171;1d164M1d158,1d165,1d172;1d165V;1d173I;1d17bV;1d1bbM1",
    "d1b9,1d165;1d1bcM1d1ba,1d165;1d1bdM1d1b9,1d165,1d16e;1d1beM1d1ba,1d165,1d16e;1d1bfM1d1b9,1d165,1d1",
    "6f;1d1c0M1d1ba,1d165,1d16f;1d1c1V;1d1ebX;1d200V;1d246X;1d2c0V;1d2d4X;1d2e0V;1d2f4X;1d300V;1d357X;1",
    "d360V;1d379X;1d400-1d419>61;1d41a-1d433>61;1d434-1d44d>61;1d44e-1d454>61;1d455X;1d456-1d467>69;1d4",
    "68-1d481>61;1d482-1d49b>61;1d49cM61;1d49dX;1d49eM63;1d49fM64;1d4a0X;1d4a2M67;1d4a3X;1d4a5M6a;1d4a6",
    "M6b;1d4a7X;1d4a9-1d4ac>6e;1d4adX;1d4ae-1d4b5>73;1d4b6-1d4b9>61;1d4baX;1d4bbM66;1d4bcX;1d4bd-1d4c3>",
    "68;1d4c4X;1d4c5-1d4cf>70;1d4d0-1d4e9>61;1d4ea-1d503>61;1d504M61;1d505M62;1d506X;1d507-1d50a>64;1d5",
    "0bX;1d50d-1d514>6a;1d515X;1d516-1d51c>73;1d51dX;1d51e-1d537>61;1d538M61;1d539M62;1d53aX;1d53b-1d53",
    "e>64;1d53fX;1d540-1d544>69;1d545X;1d546M6f;1d547X;1d54a-1d550>73;1d551X;1d552-1d56b>61;1d56c-1d585",
    ">61;1d586-1d59f>61;1d5a0-1d5b9>61;1d5ba-1d5d3>61;1d5d4-1d5ed>61;1d5ee-1d607>61;1d608-1d621>61;1d62",
    "2-1d63b>61;1d63c-1d655>61;1d656-1d66f>61;1d670-1d689>61;1d68a-1d6a3>61;1d6a4M131;1d6a5M237;1d6a6X;",
    "1d6a8-1d6b8>3b1;1d6b9M3b8;1d6ba-1d6c0>3c3;1d6c1M2207;1d6c2-1d6d2>3b1;1d6d3M3c3;1d6d5-1d6da>3c4;1d6",
    "dbM2202;1d6dcM3b5;1d6ddM3b8;1d6deM3ba;1d6dfM3c6;1d6e0M3c1;1d6e1M3c0;1d6e2-1d6f2>3b1;1d6f3M3b8;1d6f",
    "4-1d6fa>3c3;1d6fbM2207;1d6fc-1d70c>3b1;1d70dM3c3;1d70f-1d714>3c4;1d715M2202;1d716M3b5;1d717M3b8;1d",
    "718M3ba;1d719M3c6;1d71aM3c1;1d71bM3c0;1d71c-1d72c>3b1;1d72dM3b8;1d72e-1d734>3c3;1d735M2207;1d736-1",
    "d746>3b1;1d747M3c3;1d749-1d74e>3c4;1d74fM2202;1d750M3b5;1d751M3b8;1d752M3ba;1d753M3c6;1d754M3c1;1d",
    "755M3c0;1d756-1d766>3b1;1d767M3b8;1d768-1d76e>3c3;1d76fM2207;1d770-1d780>3b1;1d781M3c3;1d783-1d788",
    ">3c4;1d789M2202;1d78aM3b5;1d78bM3b8;1d78cM3ba;1d78dM3c6;1d78eM3c1;1d78fM3c0;1d790-1d7a0>3b1;1d7a1M",
    "3b8;1d7a2-1d7a8>3c3;1d7a9M2207;1d7aa-1d7ba>3b1;1d7bbM3c3;1d7bd-1d7c2>3c4;1d7c3M2202;1d7c4M3b5;1d7c",
    "5M3b8;1d7c6M3ba;1d7c7M3c6;1d7c8M3c1;1d7c9M3c0;1d7caM3dd;1d7ccX;1d7ce-1d7d7>30;1d7d8-1d7e1>30;1d7e2",
    "-1d7eb>30;1d7ec-1d7f5>30;1d7f6-1d7ff>30;1d800V;1da8cX;1da9bV;1daa0X;1daa1V;1dab0X;1df00V;1df1fX;1d",
    "f25V;1df2bX;1e000V;1e007X;1e008V;1e019X;1e01bV;1e022X;1e023V;1e025X;1e026V;1e02bX;1e030-1e038>430;",
    "1e039-1e03b>43a;1e03c-1e046>43e;1e047M44b;1e048M44d;1e049M44e;1e04aMa689;1e04bM4d9;1e04cM456;1e04d",
    "M458;1e04eM4e9;1e04fM4af;1e050M4cf;1e051-1e059>430;1e05aM43a;1e05bM43b;1e05cM43e;1e05dM43f;1e05eM4",
    "41;1e05f-1e064>443;1e065M44a;1e066M44b;1e067M491;1e068M456;1e069M455;1e06aM45f;1e06bM4ab;1e06cMa65",
    "1;1e06dM4b1;1e06eX;1e08fV;1e090X;1e100V;1e12dX;1e130V;1e13eX;1e140V;1e14aX;1e14eV;1e150X;1e290V;1e",
    "2afX;1e2c0V;1e2faX;1e2ffV;1e300X;1e4d0V;1e4faX;1e5d0V;1e5fbX;1e5ffV;1e600X;1e6c0V;1e6dfX;1e6e0V;1e",
    "6f6X;1e6feV;1e700X;1e7e0V;1e7e7X;1e7e8V;1e7ecX;1e7edV;1e7efX;1e7f0V;1e7ffX;1e800V;1e8c5X;1e8c7V;1e",
    "8d7X;1e900-1e921>1e922;1e922V;1e94cX;1e950V;1e95aX;1e95eV;1e960X;1ec71V;1ecb5X;1ed01V;1ed3eX;1ee00",
    "M627;1ee01M628;1ee02M62c;1ee03M62f;1ee04X;1ee05M648;1ee06M632;1ee07M62d;1ee08M637;1ee09M64a;1ee0a-",
    "1ee0d>643;1ee0eM633;1ee0fM639;1ee10M641;1ee11M635;1ee12M642;1ee13M631;1ee14M634;1ee15M62a;1ee16M62",
    "b;1ee17M62e;1ee18M630;1ee19M636;1ee1aM638;1ee1bM63a;1ee1cM66e;1ee1dM6ba;1ee1eM6a1;1ee1fM66f;1ee20X",
    ";1ee21M628;1ee22M62c;1ee23X;1ee24M647;1ee25X;1ee27M62d;1ee28X;1ee29M64a;1ee2a-1ee2d>643;1ee2eM633;",
    "1ee2fM639;1ee30M641;1ee31M635;1ee32M642;1ee33X;1ee34M634;1ee35M62a;1ee36M62b;1ee37M62e;1ee38X;1ee3",
    "9M636;1ee3aX;1ee3bM63a;1ee3cX;1ee42M62c;1ee43X;1ee47M62d;1ee48X;1ee49M64a;1ee4aX;1ee4bM644;1ee4cX;",
    "1ee4dM646;1ee4eM633;1ee4fM639;1ee50X;1ee51M635;1ee52M642;1ee53X;1ee54M634;1ee55X;1ee57M62e;1ee58X;",
    "1ee59M636;1ee5aX;1ee5bM63a;1ee5cX;1ee5dM6ba;1ee5eX;1ee5fM66f;1ee60X;1ee61M628;1ee62M62c;1ee63X;1ee",
    "64M647;1ee65X;1ee67M62d;1ee68M637;1ee69M64a;1ee6aM643;1ee6bX;1ee6cM645;1ee6dM646;1ee6eM633;1ee6fM6",
    "39;1ee70M641;1ee71M635;1ee72M642;1ee73X;1ee74M634;1ee75M62a;1ee76M62b;1ee77M62e;1ee78X;1ee79M636;1",
    "ee7aM638;1ee7bM63a;1ee7cM66e;1ee7dX;1ee7eM6a1;1ee7fX;1ee80M627;1ee81M628;1ee82M62c;1ee83M62f;1ee84",
    "M647;1ee85M648;1ee86M632;1ee87M62d;1ee88M637;1ee89M64a;1ee8aX;1ee8b-1ee8d>644;1ee8eM633;1ee8fM639;",
    "1ee90M641;1ee91M635;1ee92M642;1ee93M631;1ee94M634;1ee95M62a;1ee96M62b;1ee97M62e;1ee98M630;1ee99M63",
    "6;1ee9aM638;1ee9bM63a;1ee9cX;1eea1M628;1eea2M62c;1eea3M62f;1eea4X;1eea5M648;1eea6M632;1eea7M62d;1e",
    "ea8M637;1eea9M64a;1eeaaX;1eeab-1eead>644;1eeaeM633;1eeafM639;1eeb0M641;1eeb1M635;1eeb2M642;1eeb3M6",
    "31;1eeb4M634;1eeb5M62a;1eeb6M62b;1eeb7M62e;1eeb8M630;1eeb9M636;1eebaM638;1eebbM63a;1eebcX;1eef0V;1",
    "eef2X;1f000V;1f02cX;1f030V;1f094X;1f0a0V;1f0afX;1f0b1V;1f0c0X;1f0c1V;1f0d0X;1f0d1V;1f0f6X;1f101M30",
    ",2c;1f102M31,2c;1f103M32,2c;1f104M33,2c;1f105M34,2c;1f106M35,2c;1f107M36,2c;1f108M37,2c;1f109M38,2",
    "c;1f10aM39,2c;1f10bV;1f110M28,61,29;1f111M28,62,29;1f112M28,63,29;1f113M28,64,29;1f114M28,65,29;1f",
    "115M28,66,29;1f116M28,67,29;1f117M28,68,29;1f118M28,69,29;1f119M28,6a,29;1f11aM28,6b,29;1f11bM28,6",
    "c,29;1f11cM28,6d,29;1f11dM28,6e,29;1f11eM28,6f,29;1f11fM28,70,29;1f120M28,71,29;1f121M28,72,29;1f1",
    "22M28,73,29;1f123M28,74,29;1f124M28,75,29;1f125M28,76,29;1f126M28,77,29;1f127M28,78,29;1f128M28,79",
    ",29;1f129M28,7a,29;1f12aM3014,73,3015;1f12bM63;1f12cM72;1f12dM63,64;1f12eM77,7a;1f12fV;1f130-1f149",
    ">61;1f14aM68,76;1f14bM6d,76;1f14cM73,64;1f14dM73,73;1f14eM70,70,76;1f14fM77,63;1f150V;1f16aM6d,63;",
    "1f16bM6d,64;1f16cM6d,72;1f16dV;1f190M64,6a;1f191V;1f1aeX;1f1e6V;1f200M307b,304b;1f201M30b3,30b3;1f",
    "202M30b5;1f203X;1f210M624b;1f211M5b57;1f212M53cc;1f213M30c7;1f214M4e8c;1f215M591a;1f216M89e3;1f217",
    "M5929;1f218M4ea4;1f219M6620;1f21aM7121;1f21bM6599;1f21cM524d;1f21dM5f8c;1f21eM518d;1f21fM65b0;1f22",
    "0M521d;1f221M7d42;1f222M751f;1f223M8ca9;1f224M58f0;1f225M5439;1f226M6f14;1f227M6295;1f228M6355;1f2",
    "29M4e00;1f22aM4e09;1f22bM904a;1f22cM5de6;1f22dM4e2d;1f22eM53f3;1f22fM6307;1f230M8d70;1f231M6253;1f",
    "232M7981;1f233M7a7a;1f234M5408;1f235M6e80;1f236M6709;1f237M6708;1f238M7533;1f239M5272;1f23aM55b6;1",
    "f23bM914d;1f23cX;1f240M3014,672c,3015;1f241M3014,4e09,3015;1f242M3014,4e8c,3015;1f243M3014,5b89,30",
    "15;1f244M3014,70b9,3015;1f245M3014,6253,3015;1f246M3014,76d7,3015;1f247M3014,52dd,3015;1f248M3014,",
    "6557,3015;1f249X;1f250M5f97;1f251M53ef;1f252X;1f260V;1f266X;1f300V;1f6d9X;1f6dcV;1f6edX;1f6f0V;1f6",
    "fdX;1f700V;1f7daX;1f7e0V;1f7ecX;1f7f0V;1f7f1X;1f800V;1f80cX;1f810V;1f848X;1f850V;1f85aX;1f860V;1f8",
    "88X;1f890V;1f8aeX;1f8b0V;1f8bcX;1f8c0V;1f8c2X;1f8d0V;1f8d9X;1f900V;1fa58X;1fa60V;1fa6eX;1fa70V;1fa",
    "7dX;1fa80V;1fa8bX;1fa8eV;1fac7X;1fac8V;1fac9X;1facdV;1faddX;1fadfV;1faebX;1faefV;1faf9X;1fb00V;1fb",
    "93X;1fb94V;1fbf0-1fbf9>30;1fbfaV;1fbfbX;20000V;2a6e0X;2a700V;2b81eX;2b820V;2ceaeX;2ceb0V;2ebe1X;2e",
    "bf0V;2ee5eX;2f800M4e3d;2f801M4e38;2f802M4e41;2f803M20122;2f804M4f60;2f805M4fae;2f806M4fbb;2f807M50",
    "02;2f808M507a;2f809M5099;2f80aM50e7;2f80bM50cf;2f80cM349e;2f80dM2063a;2f80eM514d;2f80fM5154;2f810M",
    "5164;2f811M5177;2f812M2051c;2f813M34b9;2f814M5167;2f815M518d;2f816M2054b;2f817M5197;2f818M51a4;2f8",
    "19M4ecc;2f81aM51ac;2f81bM51b5;2f81cM291df;2f81dM51f5;2f81eM5203;2f81fM34df;2f820M523b;2f821M5246;2",
    "f822M5272;2f823M5277;2f824M3515;2f825M52c7;2f826M52c9;2f827M52e4;2f828M52fa;2f829M5305;2f82aM5306;",
    "2f82bM5317;2f82cM5349;2f82dM5351;2f82eM535a;2f82fM5373;2f830M537d;2f831M537f;2f834M20a2c;2f835M707",
    "0;2f836M53ca;2f837M53df;2f838M20b63;2f839M53eb;2f83aM53f1;2f83bM5406;2f83cM549e;2f83dM5438;2f83eM5",
    "448;2f83fM5468;2f840M54a2;2f841M54f6;2f842M5510;2f843M5553;2f844M5563;2f845M5584;2f847M5599;2f848M",
    "55ab;2f849M55b3;2f84aM55c2;2f84bM5716;2f84cM5606;2f84dM5717;2f84eM5651;2f84fM5674;2f850M5207;2f851",
    "M58ee;2f852M57ce;2f853M57f4;2f854M580d;2f855M578b;2f856M5832;2f857M5831;2f858M58ac;2f859M214e4;2f8",
    "5aM58f2;2f85bM58f7;2f85cM5906;2f85dM591a;2f85eM5922;2f85fM5962;2f860M216a8;2f861M216ea;2f862M59ec;",
    "2f863M5a1b;2f864M5a27;2f865M59d8;2f866M5a66;2f867M36ee;2f868M36fc;2f869M5b08;2f86aM5b3e;2f86cM219c",
    "8;2f86dM5bc3;2f86eM5bd8;2f86fM5be7;2f870M5bf3;2f871M21b18;2f872M5bff;2f873M5c06;2f874M5f53;2f875M5",
    "c22;2f876M3781;2f877M5c60;2f878M5c6e;2f879M5cc0;2f87aM5c8d;2f87bM21de4;2f87cM5d43;2f87dM21de6;2f87",
    "eM5d6e;2f87fM5d6b;2f880M5d7c;2f881M5de1;2f882M5de2;2f883M382f;2f884M5dfd;2f885M5e28;2f886M5e3d;2f8",
    "87M5e69;2f888M3862;2f889M22183;2f88aM387c;2f88bM5eb0;2f88cM5eb3;2f88dM5eb6;2f88eM5eca;2f88fM2a392;",
    "2f890M5efe;2f891M22331;2f893M8201;2f894M5f22;2f896M38c7;2f897M232b8;2f898M261da;2f899M5f62;2f89aM5",
    "f6b;2f89bM38e3;2f89cM5f9a;2f89dM5fcd;2f89eM5fd7;2f89fM5ff9;2f8a0M6081;2f8a1M393a;2f8a2M391c;2f8a3M",
    "6094;2f8a4M226d4;2f8a5M60c7;2f8a6M6148;2f8a7M614c;2f8a8M614e;2f8a9M614c;2f8aaM617a;2f8abM618e;2f8a",
    "cM61b2;2f8adM61a4;2f8aeM61af;2f8afM61de;2f8b0M61f2;2f8b1M61f6;2f8b2M6210;2f8b3M621b;2f8b4M625d;2f8",
    "b5M62b1;2f8b6M62d4;2f8b7M6350;2f8b8M22b0c;2f8b9M633d;2f8baM62fc;2f8bbM6368;2f8bcM6383;2f8bdM63e4;2",
    "f8beM22bf1;2f8bfM6422;2f8c0M63c5;2f8c1M63a9;2f8c2M3a2e;2f8c3M6469;2f8c4M647e;2f8c5M649d;2f8c6M6477",
    ";2f8c7M3a6c;2f8c8M654f;2f8c9M656c;2f8caM2300a;2f8cbM65e3;2f8ccM66f8;2f8cdM6649;2f8ceM3b19;2f8cfM66",
    "91;2f8d0M3b08;2f8d1M3ae4;2f8d2M5192;2f8d3M5195;2f8d4M6700;2f8d5M669c;2f8d6M80ad;2f8d7M43d9;2f8d8M6",
    "717;2f8d9M671b;2f8daM6721;2f8dbM675e;2f8dcM6753;2f8ddM233c3;2f8deM3b49;2f8dfM67fa;2f8e0M6785;2f8e1",
    "M6852;2f8e2M6885;2f8e3M2346d;2f8e4M688e;2f8e5M681f;2f8e6M6914;2f8e7M3b9d;2f8e8M6942;2f8e9M69a3;2f8",
    "eaM69ea;2f8ebM6aa8;2f8ecM236a3;2f8edM6adb;2f8eeM3c18;2f8efM6b21;2f8f0M238a7;2f8f1M6b54;2f8f2M3c4e;",
    "2f8f3M6b72;2f8f4M6b9f;2f8f5M6bba;2f8f6M6bbb;2f8f7M23a8d;2f8f8M21d0b;2f8f9M23afa;2f8faM6c4e;2f8fbM2",
    "3cbc;2f8fcM6cbf;2f8fdM6ccd;2f8feM6c67;2f8ffM6d16;2f900M6d3e;2f901M6d77;2f902M6d41;2f903M6d69;2f904",
    "M6d78;2f905M6d85;2f906M23d1e;2f907M6d34;2f908M6e2f;2f909M6e6e;2f90aM3d33;2f90bM6ecb;2f90cM6ec7;2f9",
    "0dM23ed1;2f90eM6df9;2f90fM6f6e;2f910M23f5e;2f911M23f8e;2f912M6fc6;2f913M7039;2f914M701e;2f915M701b",
    ";2f916M3d96;2f917M704a;2f918M707d;2f919M7077;2f91aM70ad;2f91bM20525;2f91cM7145;2f91dM24263;2f91eM7",
    "19c;2f91fM243ab;2f920M7228;2f921M7235;2f922M7250;2f923M24608;2f924M7280;2f925M7295;2f926M24735;2f9",
    "27M24814;2f928M737a;2f929M738b;2f92aM3eac;2f92bM73a5;2f92cM3eb8;2f92eM7447;2f92fM745c;2f930M7471;2",
    "f931M7485;2f932M74ca;2f933M3f1b;2f934M7524;2f935M24c36;2f936M753e;2f937M24c92;2f938M7570;2f939M221",
    "9f;2f93aM7610;2f93bM24fa1;2f93cM24fb8;2f93dM25044;2f93eM3ffc;2f93fM4008;2f940M76f4;2f941M250f3;2f9",
    "42M250f2;2f943M25119;2f944M25133;2f945M771e;2f946M771f;2f948M774a;2f949M4039;2f94aM778b;2f94bM4046",
    ";2f94cM4096;2f94dM2541d;2f94eM784e;2f94fM788c;2f950M78cc;2f951M40e3;2f952M25626;2f953M7956;2f954M2",
    "569a;2f955M256c5;2f956M798f;2f957M79eb;2f958M412f;2f959M7a40;2f95aM7a4a;2f95bM7a4f;2f95cM2597c;2f9",
    "5dM25aa7;2f95fM7aee;2f960M4202;2f961M25bab;2f962M7bc6;2f963M7bc9;2f964M4227;2f965M25c80;2f966M7cd2",
    ";2f967M42a0;2f968M7ce8;2f969M7ce3;2f96aM7d00;2f96bM25f86;2f96cM7d63;2f96dM4301;2f96eM7dc7;2f96fM7e",
    "02;2f970M7e45;2f971M4334;2f972M26228;2f973M26247;2f974M4359;2f975M262d9;2f976M7f7a;2f977M2633e;2f9",
    "78M7f95;2f979M7ffa;2f97aM8005;2f97bM264da;2f97cM26523;2f97dM8060;2f97eM265a8;2f97fM8070;2f980M2335",
    "f;2f981M43d5;2f982M80b2;2f983M8103;2f984M440b;2f985M813e;2f986M5ab5;2f987M267a7;2f988M267b5;2f989M",
    "23393;2f98aM2339c;2f98bM8201;2f98cM8204;2f98dM8f9e;2f98eM446b;2f98fM8291;2f990M828b;2f991M829d;2f9",
    "92M52b3;2f993M82b1;2f994M82b3;2f995M82bd;2f996M82e6;2f997M26b3c;2f998M82e5;2f999M831d;2f99aM8363;2",
    "f99bM83ad;2f99cM8323;2f99dM83bd;2f99eM83e7;2f99fM8457;2f9a0M8353;2f9a1M83ca;2f9a2M83cc;2f9a3M83dc;",
    "2f9a4M26c36;2f9a5M26d6b;2f9a6M26cd5;2f9a7M452b;2f9a8M84f1;2f9a9M84f3;2f9aaM8516;2f9abM273ca;2f9acM",
    "8564;2f9adM26f2c;2f9aeM455d;2f9afM4561;2f9b0M26fb1;2f9b1M270d2;2f9b2M456b;2f9b3M8650;2f9b4M865c;2f",
    "9b5M8667;2f9b6M8669;2f9b7M86a9;2f9b8M8688;2f9b9M870e;2f9baM86e2;2f9bbM8779;2f9bcM8728;2f9bdM876b;2",
    "f9beM8786;2f9bfM45d7;2f9c0M87e1;2f9c1M8801;2f9c2M45f9;2f9c3M8860;2f9c4M8863;2f9c5M27667;2f9c6M88d7",
    ";2f9c7M88de;2f9c8M4635;2f9c9M88fa;2f9caM34bb;2f9cbM278ae;2f9ccM27966;2f9cdM46be;2f9ceM46c7;2f9cfM8",
    "aa0;2f9d0M8aed;2f9d1M8b8a;2f9d2M8c55;2f9d3M27ca8;2f9d4M8cab;2f9d5M8cc1;2f9d6M8d1b;2f9d7M8d77;2f9d8",
    "M27f2f;2f9d9M20804;2f9daM8dcb;2f9dbM8dbc;2f9dcM8df0;2f9ddM208de;2f9deM8ed4;2f9dfM8f38;2f9e0M285d2;",
    "2f9e1M285ed;2f9e2M9094;2f9e3M90f1;2f9e4M9111;2f9e5M2872e;2f9e6M911b;2f9e7M9238;2f9e8M92d7;2f9e9M92",
    "d8;2f9eaM927c;2f9ebM93f9;2f9ecM9415;2f9edM28bfa;2f9eeM958b;2f9efM4995;2f9f0M95b7;2f9f1M28d77;2f9f2",
    "M49e6;2f9f3M96c3;2f9f4M5db2;2f9f5M9723;2f9f6M29145;2f9f7M2921a;2f9f8M4a6e;2f9f9M4a76;2f9faM97e0;2f",
    "9fbM2940a;2f9fcM4ab2;2f9fdM29496;2f9feM980b;2fa00M9829;2fa01M295b6;2fa02M98e2;2fa03M4b33;2fa04M992",
    "9;2fa05M99a7;2fa06M99c2;2fa07M99fe;2fa08M4bce;2fa09M29b30;2fa0aM9b12;2fa0bM9c40;2fa0cM9cfd;2fa0dM4",
    "cce;2fa0eM4ced;2fa0fM9d67;2fa10M2a0ce;2fa11M4cf8;2fa12M2a105;2fa13M2a20e;2fa14M2a291;2fa15M9ebb;2f",
    "a16M4d56;2fa17M9ef9;2fa18M9efe;2fa19M9f05;2fa1aM9f0f;2fa1bM9f16;2fa1cM9f3b;2fa1dM2a600;2fa1eX;3000",
    "0V;3134bX;31350V;3347aX;e0100I;e01f0X"]

end Unicode
end Conveyor
