/-!
# Characters made of others, and variants

Letters that are made of a letter and marks on it, and letters and digits that differ from others only in
how they look, with the code points of those. The listings are of consecutive characters, with semicolons
between them.
-/

namespace FormulaCube.Text

/-! ## Letters with marks -/

/-- What letters are made of; the listings stand with their first code points. -/
def canonicalParts : List (Nat × List String) :=
  [(0xc0, ["41 300;41 301;41 302;41 303;41 308;41 30a"]),
    (0xc7, ["43 327;45 300;45 301;45 302;45 308;49 300;49 301;49 302;49 308"]),
    (0xd1, ["4e 303;4f 300;4f 301;4f 302;4f 303;4f 308"]),
    (0xd9, ["55 300;55 301;55 302;55 308;59 301"]),
    (0xe0, ["61 300;61 301;61 302;61 303;61 308;61 30a"]),
    (0xe7, ["63 327;65 300;65 301;65 302;65 308;69 300;69 301;69 302;69 308"]),
    (0xf1, ["6e 303;6f 300;6f 301;6f 302;6f 303;6f 308"]),
    (0xf9, ["75 300;75 301;75 302;75 308;79 301"]),
    (0xff,
      ["79 308;41 304;61 304;41 306;61 306;41 328;61 328;43 301;63 301;43 302;63 302;43 307",
      "63 307;43 30c;63 30c;44 30c;64 30c"]),
    (0x112,
      ["45 304;65 304;45 306;65 306;45 307;65 307;45 328;65 328;45 30c;65 30c;47 302;67 302",
      "47 306;67 306;47 307;67 307;47 327;67 327;48 302;68 302"]),
    (0x128, ["49 303;69 303;49 304;69 304;49 306;69 306;49 328;69 328;49 307"]),
    (0x134, ["4a 302;6a 302;4b 327;6b 327"]),
    (0x139, ["4c 301;6c 301;4c 327;6c 327;4c 30c;6c 30c"]),
    (0x143, ["4e 301;6e 301;4e 327;6e 327;4e 30c;6e 30c"]),
    (0x14c, ["4f 304;6f 304;4f 306;6f 306;4f 30b;6f 30b"]),
    (0x154,
      ["52 301;72 301;52 327;72 327;52 30c;72 30c;53 301;73 301;53 302;73 302;53 327;73 327",
      "53 30c;73 30c;54 327;74 327;54 30c;74 30c"]),
    (0x168,
      ["55 303;75 303;55 304;75 304;55 306;75 306;55 30a;75 30a;55 30b;75 30b;55 328;75 328",
      "57 302;77 302;59 302;79 302;59 308;5a 301;7a 301;5a 307;7a 307;5a 30c;7a 30c"]),
    (0x1a0, ["4f 31b;6f 31b"]), (0x1af, ["55 31b;75 31b"]),
    (0x1cd,
      ["41 30c;61 30c;49 30c;69 30c;4f 30c;6f 30c;55 30c;75 30c;dc 304;fc 304;dc 301;fc 301",
      "dc 30c;fc 30c;dc 300;fc 300"]),
    (0x1de, ["c4 304;e4 304;226 304;227 304;c6 304;e6 304"]),
    (0x1e6, ["47 30c;67 30c;4b 30c;6b 30c;4f 328;6f 328;1ea 304;1eb 304;1b7 30c;292 30c;6a 30c"]),
    (0x1f4, ["47 301;67 301"]),
    (0x1f8,
      ["4e 300;6e 300;c5 301;e5 301;c6 301;e6 301;d8 301;f8 301;41 30f;61 30f;41 311;61 311",
      "45 30f;65 30f;45 311;65 311;49 30f;69 30f;49 311;69 311;4f 30f;6f 30f;4f 311;6f 311",
      "52 30f;72 30f;52 311;72 311;55 30f;75 30f;55 311;75 311;53 326;73 326;54 326;74 326"]),
    (0x21e, ["48 30c;68 30c"]),
    (0x226,
      ["41 307;61 307;45 327;65 327;d6 304;f6 304;d5 304;f5 304;4f 307;6f 307;22e 304;22f 304",
      "59 304;79 304"]),
    (0x340, ["300;301"]), (0x343, ["313;308 301"]), (0x374, ["2b9"]),
    (0x386, ["391 301;b7;395 301;397 301;399 301"]), (0x38c, ["39f 301"]),
    (0x38e, ["3a5 301;3a9 301;3ca 301"]),
    (0x3aa, ["399 308;3a5 308;3b1 301;3b5 301;3b7 301;3b9 301;3cb 301"]),
    (0x3ca, ["3b9 308;3c5 308;3bf 301;3c5 301;3c9 301"]), (0x3d3, ["3d2 301;3d2 308"]),
    (0x400, ["415 300;415 308"]), (0x403, ["413 301"]), (0x407, ["406 308"]),
    (0x40c, ["41a 301;418 300;423 306"]), (0x419, ["418 306"]), (0x439, ["438 306"]),
    (0x450, ["435 300;435 308"]), (0x453, ["433 301"]), (0x457, ["456 308"]),
    (0x45c, ["43a 301;438 300;443 306"]), (0x476, ["474 30f;475 30f"]),
    (0x4c1, ["416 306;436 306"]), (0x4d0, ["410 306;430 306;410 308;430 308"]),
    (0x4d6, ["415 306;435 306"]), (0x4da, ["4d8 308;4d9 308;416 308;436 308;417 308;437 308"]),
    (0x4e2, ["418 304;438 304;418 308;438 308;41e 308;43e 308"]),
    (0x4ea,
      ["4e8 308;4e9 308;42d 308;44d 308;423 304;443 304;423 308;443 308;423 30b;443 30b",
      "427 308;447 308"]),
    (0x4f8, ["42b 308;44b 308"]), (0x622, ["627 653;627 654;648 654;627 655;64a 654"]),
    (0x6c0, ["6d5 654"]), (0x6c2, ["6c1 654"]), (0x6d3, ["6d2 654"]), (0x929, ["928 93c"]),
    (0x931, ["930 93c"]), (0x934, ["933 93c"]),
    (0x958, ["915 93c;916 93c;917 93c;91c 93c;921 93c;922 93c;92b 93c;92f 93c"]),
    (0x9cb, ["9c7 9be;9c7 9d7"]), (0x9dc, ["9a1 9bc;9a2 9bc"]), (0x9df, ["9af 9bc"]),
    (0xa33, ["a32 a3c"]), (0xa36, ["a38 a3c"]), (0xa59, ["a16 a3c;a17 a3c;a1c a3c"]),
    (0xa5e, ["a2b a3c"]), (0xb48, ["b47 b56"]), (0xb4b, ["b47 b3e;b47 b57"]),
    (0xb5c, ["b21 b3c;b22 b3c"]), (0xb94, ["b92 bd7"]), (0xbca, ["bc6 bbe;bc7 bbe;bc6 bd7"]),
    (0xc48, ["c46 c56"]), (0xcc0, ["cbf cd5"]), (0xcc7, ["cc6 cd5;cc6 cd6"]),
    (0xcca, ["cc6 cc2;cca cd5"]), (0xd4a, ["d46 d3e;d47 d3e;d46 d57"]), (0xdda, ["dd9 dca"]),
    (0xddc, ["dd9 dcf;ddc dca;dd9 ddf"]), (0xf43, ["f42 fb7"]), (0xf4d, ["f4c fb7"]),
    (0xf52, ["f51 fb7"]), (0xf57, ["f56 fb7"]), (0xf5c, ["f5b fb7"]), (0xf69, ["f40 fb5"]),
    (0xf73, ["f71 f72"]), (0xf75, ["f71 f74;fb2 f80"]), (0xf78, ["fb3 f80"]), (0xf81, ["f71 f80"]),
    (0xf93, ["f92 fb7"]), (0xf9d, ["f9c fb7"]), (0xfa2, ["fa1 fb7"]), (0xfa7, ["fa6 fb7"]),
    (0xfac, ["fab fb7"]), (0xfb9, ["f90 fb5"]), (0x1026, ["1025 102e"]), (0x1b06, ["1b05 1b35"]),
    (0x1b08, ["1b07 1b35"]), (0x1b0a, ["1b09 1b35"]), (0x1b0c, ["1b0b 1b35"]),
    (0x1b0e, ["1b0d 1b35"]), (0x1b12, ["1b11 1b35"]), (0x1b3b, ["1b3a 1b35"]),
    (0x1b3d, ["1b3c 1b35"]), (0x1b40, ["1b3e 1b35;1b3f 1b35"]), (0x1b43, ["1b42 1b35"]),
    (0x1e00,
      ["41 325;61 325;42 307;62 307;42 323;62 323;42 331;62 331;c7 301;e7 301;44 307;64 307",
      "44 323;64 323;44 331;64 331;44 327;64 327;44 32d;64 32d;112 300;113 300;112 301",
      "113 301;45 32d;65 32d;45 330;65 330;228 306;229 306;46 307;66 307;47 304;67 304;48 307",
      "68 307;48 323;68 323;48 308;68 308;48 327;68 327;48 32e;68 32e;49 330;69 330;cf 301",
      "ef 301;4b 301;6b 301;4b 323;6b 323;4b 331;6b 331;4c 323;6c 323;1e36 304;1e37 304",
      "4c 331;6c 331;4c 32d;6c 32d;4d 301;6d 301;4d 307;6d 307;4d 323;6d 323;4e 307;6e 307",
      "4e 323;6e 323;4e 331;6e 331;4e 32d;6e 32d;d5 301;f5 301;d5 308;f5 308;14c 300;14d 300",
      "14c 301;14d 301;50 301;70 301;50 307;70 307;52 307;72 307;52 323;72 323;1e5a 304",
      "1e5b 304;52 331;72 331;53 307;73 307;53 323;73 323;15a 307;15b 307;160 307;161 307",
      "1e62 307;1e63 307;54 307;74 307;54 323;74 323;54 331;74 331;54 32d;74 32d;55 324",
      "75 324;55 330;75 330;55 32d;75 32d;168 301;169 301;16a 308;16b 308;56 303;76 303",
      "56 323;76 323;57 300;77 300;57 301;77 301;57 308;77 308;57 307;77 307;57 323;77 323",
      "58 307;78 307;58 308;78 308;59 307;79 307;5a 302;7a 302;5a 323;7a 323;5a 331;7a 331",
      "68 331;74 308;77 30a;79 30a"]),
    (0x1e9b, ["17f 307"]),
    (0x1ea0,
      ["41 323;61 323;41 309;61 309;c2 301;e2 301;c2 300;e2 300;c2 309;e2 309;c2 303;e2 303",
      "1ea0 302;1ea1 302;102 301;103 301;102 300;103 300;102 309;103 309;102 303;103 303",
      "1ea0 306;1ea1 306;45 323;65 323;45 309;65 309;45 303;65 303;ca 301;ea 301;ca 300",
      "ea 300;ca 309;ea 309;ca 303;ea 303;1eb8 302;1eb9 302;49 309;69 309;49 323;69 323",
      "4f 323;6f 323;4f 309;6f 309;d4 301;f4 301;d4 300;f4 300;d4 309;f4 309;d4 303;f4 303",
      "1ecc 302;1ecd 302;1a0 301;1a1 301;1a0 300;1a1 300;1a0 309;1a1 309;1a0 303;1a1 303",
      "1a0 323;1a1 323;55 323;75 323;55 309;75 309;1af 301;1b0 301;1af 300;1b0 300;1af 309",
      "1b0 309;1af 303;1b0 303;1af 323;1b0 323;59 300;79 300;59 323;79 323;59 309;79 309",
      "59 303;79 303"]),
    (0x1f00,
      ["3b1 313;3b1 314;1f00 300;1f01 300;1f00 301;1f01 301;1f00 342;1f01 342;391 313;391 314",
      "1f08 300;1f09 300;1f08 301;1f09 301;1f08 342;1f09 342;3b5 313;3b5 314;1f10 300",
      "1f11 300;1f10 301;1f11 301"]),
    (0x1f18, ["395 313;395 314;1f18 300;1f19 300;1f18 301;1f19 301"]),
    (0x1f20,
      ["3b7 313;3b7 314;1f20 300;1f21 300;1f20 301;1f21 301;1f20 342;1f21 342;397 313;397 314",
      "1f28 300;1f29 300;1f28 301;1f29 301;1f28 342;1f29 342;3b9 313;3b9 314;1f30 300",
      "1f31 300;1f30 301;1f31 301;1f30 342;1f31 342;399 313;399 314;1f38 300;1f39 300",
      "1f38 301;1f39 301;1f38 342;1f39 342;3bf 313;3bf 314;1f40 300;1f41 300;1f40 301",
      "1f41 301"]),
    (0x1f48, ["39f 313;39f 314;1f48 300;1f49 300;1f48 301;1f49 301"]),
    (0x1f50, ["3c5 313;3c5 314;1f50 300;1f51 300;1f50 301;1f51 301;1f50 342;1f51 342"]),
    (0x1f59, ["3a5 314"]), (0x1f5b, ["1f59 300"]), (0x1f5d, ["1f59 301"]),
    (0x1f5f,
      ["1f59 342;3c9 313;3c9 314;1f60 300;1f61 300;1f60 301;1f61 301;1f60 342;1f61 342;3a9 313",
      "3a9 314;1f68 300;1f69 300;1f68 301;1f69 301;1f68 342;1f69 342;3b1 300;3ac;3b5 300;3ad",
      "3b7 300;3ae;3b9 300;3af;3bf 300;3cc;3c5 300;3cd;3c9 300;3ce"]),
    (0x1f80,
      ["1f00 345;1f01 345;1f02 345;1f03 345;1f04 345;1f05 345;1f06 345;1f07 345;1f08 345",
      "1f09 345;1f0a 345;1f0b 345;1f0c 345;1f0d 345;1f0e 345;1f0f 345;1f20 345;1f21 345",
      "1f22 345;1f23 345;1f24 345;1f25 345;1f26 345;1f27 345;1f28 345;1f29 345;1f2a 345",
      "1f2b 345;1f2c 345;1f2d 345;1f2e 345;1f2f 345;1f60 345;1f61 345;1f62 345;1f63 345",
      "1f64 345;1f65 345;1f66 345;1f67 345;1f68 345;1f69 345;1f6a 345;1f6b 345;1f6c 345",
      "1f6d 345;1f6e 345;1f6f 345;3b1 306;3b1 304;1f70 345;3b1 345;3ac 345"]),
    (0x1fb6, ["3b1 342;1fb6 345;391 306;391 304;391 300;386;391 345"]), (0x1fbe, ["3b9"]),
    (0x1fc2, ["1f74 345;3b7 345;3ae 345"]),
    (0x1fc6, ["3b7 342;1fc6 345;395 300;388;397 300;389;397 345"]),
    (0x1fd0, ["3b9 306;3b9 304;3ca 300;390"]),
    (0x1fd6, ["3b9 342;3ca 342;399 306;399 304;399 300;38a"]),
    (0x1fe0,
      ["3c5 306;3c5 304;3cb 300;3b0;3c1 313;3c1 314;3c5 342;3cb 342;3a5 306;3a5 304;3a5 300",
      "38e;3a1 314"]),
    (0x1ff2, ["1f7c 345;3c9 345;3ce 345"]),
    (0x1ff6, ["3c9 342;1ff6 345;39f 300;38c;3a9 300;38f;3a9 345"]), (0x2126, ["3a9"]),
    (0x212a, ["4b;c5"]), (0x304c, ["304b 3099"]), (0x304e, ["304d 3099"]), (0x3050, ["304f 3099"]),
    (0x3052, ["3051 3099"]), (0x3054, ["3053 3099"]), (0x3056, ["3055 3099"]),
    (0x3058, ["3057 3099"]), (0x305a, ["3059 3099"]), (0x305c, ["305b 3099"]),
    (0x305e, ["305d 3099"]), (0x3060, ["305f 3099"]), (0x3062, ["3061 3099"]),
    (0x3065, ["3064 3099"]), (0x3067, ["3066 3099"]), (0x3069, ["3068 3099"]),
    (0x3070, ["306f 3099;306f 309a"]), (0x3073, ["3072 3099;3072 309a"]),
    (0x3076, ["3075 3099;3075 309a"]), (0x3079, ["3078 3099;3078 309a"]),
    (0x307c, ["307b 3099;307b 309a"]), (0x3094, ["3046 3099"]), (0x309e, ["309d 3099"]),
    (0x30ac, ["30ab 3099"]), (0x30ae, ["30ad 3099"]), (0x30b0, ["30af 3099"]),
    (0x30b2, ["30b1 3099"]), (0x30b4, ["30b3 3099"]), (0x30b6, ["30b5 3099"]),
    (0x30b8, ["30b7 3099"]), (0x30ba, ["30b9 3099"]), (0x30bc, ["30bb 3099"]),
    (0x30be, ["30bd 3099"]), (0x30c0, ["30bf 3099"]), (0x30c2, ["30c1 3099"]),
    (0x30c5, ["30c4 3099"]), (0x30c7, ["30c6 3099"]), (0x30c9, ["30c8 3099"]),
    (0x30d0, ["30cf 3099;30cf 309a"]), (0x30d3, ["30d2 3099;30d2 309a"]),
    (0x30d6, ["30d5 3099;30d5 309a"]), (0x30d9, ["30d8 3099;30d8 309a"]),
    (0x30dc, ["30db 3099;30db 309a"]), (0x30f4, ["30a6 3099"]),
    (0x30f7, ["30ef 3099;30f0 3099;30f1 3099;30f2 3099"]), (0x30fe, ["30fd 3099"]),
    (0xf900,
      ["8c48;66f4;8eca;8cc8;6ed1;4e32;53e5;9f9c;9f9c;5951;91d1;5587;5948;61f6;7669;7f85;863f",
      "87ba;88f8;908f;6a02;6d1b;70d9;73de;843d;916a;99f1;4e82;5375;6b04;721b;862d;9e1e;5d50",
      "6feb;85cd;8964;62c9;81d8;881f;5eca;6717;6d6a;72fc;90ce;4f86;51b7;52de;64c4;6ad3;7210",
      "76e7;8001;8606;865c;8def;9732;9b6f;9dfa;788c;797f;7da0;83c9;9304;9e7f;8ad6;58df;5f04",
      "7c60;807e;7262;78ca;8cc2;96f7;58d8;5c62;6a13;6dda;6f0f;7d2f;7e37;964b;52d2;808b;51dc",
      "51cc;7a1c;7dbe;83f1;9675;8b80;62cf;6a02;8afe;4e39;5be7;6012;7387;7570;5317;78fb;4fbf",
      "5fa9;4e0d;6ccc;6578;7d22;53c3;585e;7701;8449;8aaa;6bba;8fb0;6c88;62fe;82e5;63a0;7565",
      "4eae;5169;51c9;6881;7ce7;826f;8ad2;91cf;52f5;5442;5973;5eec;65c5;6ffe;792a;95ad;9a6a",
      "9e97;9ece;529b;66c6;6b77;8f62;5e74;6190;6200;649a;6f23;7149;7489;79ca;7df4;806f;8f26",
      "84ee;9023;934a;5217;52a3;54bd;70c8;88c2;8aaa;5ec9;5ff5;637b;6bae;7c3e;7375;4ee4;56f9",
      "5be7;5dba;601c;73b2;7469;7f9a;8046;9234;96f6;9748;9818;4f8b;79ae;91b4;96b8;60e1;4e86",
      "50da;5bee;5c3f;6599;6a02;71ce;7642;84fc;907c;9f8d;6688;962e;5289;677b;67f3;6d41;6e9c",
      "7409;7559;786b;7d10;985e;516d;622e;9678;502b;5d19;6dea;8f2a;5f8b;6144;6817;7387;9686",
      "5229;540f;5c65;6613;674e;68a8;6ce5;7406;75e2;7f79;88cf;88e1;91cc;96e2;533f;6eba;541d",
      "71d0;7498;85fa;96a3;9c57;9e9f;6797;6dcb;81e8;7acb;7b20;7c92;72c0;7099;8b58;4ec0;8336",
      "523a;5207;5ea6;62d3;7cd6;5b85;6d1e;66b4;8f3b;884c;964d;898b;5ed3;5140;55c0"]),
    (0xfa10, ["585a"]), (0xfa12, ["6674"]),
    (0xfa15, ["51de;732a;76ca;793c;795e;7965;798f;9756;7cbe;7fbd"]), (0xfa20, ["8612"]),
    (0xfa22, ["8af8"]), (0xfa25, ["9038;90fd"]),
    (0xfa2a,
      ["98ef;98fc;9928;9db4;90de;96b7;4fae;50e7;514d;52c9;52e4;5351;559d;5606;5668;5840;58a8",
      "5c64;5c6e;6094;6168;618e;61f2;654f;65e2;6691;6885;6d77;6e1a;6f22;716e;722b;7422;7891",
      "793e;7949;7948;7950;7956;795d;798d;798e;7a40;7a81;7bc0;7df4;7e09;7e41;7f72;8005;81ed",
      "8279;8279;8457;8910;8996;8b01;8b39;8cd3;8d08;8fb6;9038;96e3;97ff;983b;6075;242ee;8218"]),
    (0xfa70,
      ["4e26;51b5;5168;4f80;5145;5180;52c7;52fa;559d;5555;5599;55e2;585a;58b3;5944;5954;5a62",
      "5b28;5ed2;5ed9;5f69;5fad;60d8;614e;6108;618e;6160;61f2;6234;63c4;641c;6452;6556;6674",
      "6717;671b;6756;6b79;6bba;6d41;6edb;6ecb;6f22;701e;716e;77a7;7235;72af;732a;7471;7506",
      "753b;761d;761f;76ca;76db;76f4;774a;7740;78cc;7ab1;7bc0;7c7b;7d5b;7df4;7f3e;8005;8352",
      "83ef;8779;8941;8986;8996;8abf;8af8;8acb;8b01;8afe;8aed;8b39;8b8a;8d08;8f38;9072;9199",
      "9276;967c;96e3;9756;97db;97ff;980b;983b;9b12;9f9c;2284a;22844;233d5;3b9d;4018;4039",
      "25249;25cd0;27ed3;9f43;9f8e"]),
    (0xfb1d, ["5d9 5b4"]), (0xfb1f, ["5f2 5b7"]),
    (0xfb2a,
      ["5e9 5c1;5e9 5c2;fb49 5c1;fb49 5c2;5d0 5b7;5d0 5b8;5d0 5bc;5d1 5bc;5d2 5bc;5d3 5bc",
      "5d4 5bc;5d5 5bc;5d6 5bc"]),
    (0xfb38, ["5d8 5bc;5d9 5bc;5da 5bc;5db 5bc;5dc 5bc"]), (0xfb3e, ["5de 5bc"]),
    (0xfb40, ["5e0 5bc;5e1 5bc"]), (0xfb43, ["5e3 5bc;5e4 5bc"]),
    (0xfb46, ["5e6 5bc;5e7 5bc;5e8 5bc;5e9 5bc;5ea 5bc;5d5 5b9;5d1 5bf;5db 5bf;5e4 5bf"]),
    (0x1109a, ["11099 110ba"]), (0x1109c, ["1109b 110ba"]), (0x110ab, ["110a5 110ba"]),
    (0x1112e, ["11131 11127;11132 11127"]), (0x1134b, ["11347 1133e;11347 11357"]),
    (0x114bb, ["114b9 114ba;114b9 114b0"]), (0x114be, ["114b9 114bd"]),
    (0x115ba, ["115b8 115af;115b9 115af"]), (0x11938, ["11935 11930"]),
    (0x2f800,
      ["4e3d;4e38;4e41;20122;4f60;4fae;4fbb;5002;507a;5099;50e7;50cf;349e;2063a;514d;5154;5164",
      "5177;2051c;34b9;5167;518d;2054b;5197;51a4;4ecc;51ac;51b5;291df;51f5;5203;34df;523b",
      "5246;5272;5277;3515;52c7;52c9;52e4;52fa;5305;5306;5317;5349;5351;535a;5373;537d;537f",
      "537f;537f;20a2c;7070;53ca;53df;20b63;53eb;53f1;5406;549e;5438;5448;5468;54a2;54f6;5510",
      "5553;5563;5584;5584;5599;55ab;55b3;55c2;5716;5606;5717;5651;5674;5207;58ee;57ce;57f4",
      "580d;578b;5832;5831;58ac;214e4;58f2;58f7;5906;591a;5922;5962;216a8;216ea;59ec;5a1b",
      "5a27;59d8;5a66;36ee;36fc;5b08;5b3e;5b3e;219c8;5bc3;5bd8;5be7;5bf3;21b18;5bff;5c06;5f53",
      "5c22;3781;5c60;5c6e;5cc0;5c8d;21de4;5d43;21de6;5d6e;5d6b;5d7c;5de1;5de2;382f;5dfd;5e28",
      "5e3d;5e69;3862;22183;387c;5eb0;5eb3;5eb6;5eca;2a392;5efe;22331;22331;8201;5f22;5f22",
      "38c7;232b8;261da;5f62;5f6b;38e3;5f9a;5fcd;5fd7;5ff9;6081;393a;391c;6094;226d4;60c7",
      "6148;614c;614e;614c;617a;618e;61b2;61a4;61af;61de;61f2;61f6;6210;621b;625d;62b1;62d4",
      "6350;22b0c;633d;62fc;6368;6383;63e4;22bf1;6422;63c5;63a9;3a2e;6469;647e;649d;6477;3a6c",
      "654f;656c;2300a;65e3;66f8;6649;3b19;6691;3b08;3ae4;5192;5195;6700;669c;80ad;43d9;6717",
      "671b;6721;675e;6753;233c3;3b49;67fa;6785;6852;6885;2346d;688e;681f;6914;3b9d;6942;69a3",
      "69ea;6aa8;236a3;6adb;3c18;6b21;238a7;6b54;3c4e;6b72;6b9f;6bba;6bbb;23a8d;21d0b;23afa",
      "6c4e;23cbc;6cbf;6ccd;6c67;6d16;6d3e;6d77;6d41;6d69;6d78;6d85;23d1e;6d34;6e2f;6e6e;3d33",
      "6ecb;6ec7;23ed1;6df9;6f6e;23f5e;23f8e;6fc6;7039;701e;701b;3d96;704a;707d;7077;70ad",
      "20525;7145;24263;719c;243ab;7228;7235;7250;24608;7280;7295;24735;24814;737a;738b;3eac",
      "73a5;3eb8;3eb8;7447;745c;7471;7485;74ca;3f1b;7524;24c36;753e;24c92;7570;2219f;7610",
      "24fa1;24fb8;25044;3ffc;4008;76f4;250f3;250f2;25119;25133;771e;771f;771f;774a;4039;778b",
      "4046;4096;2541d;784e;788c;78cc;40e3;25626;7956;2569a;256c5;798f;79eb;412f;7a40;7a4a",
      "7a4f;2597c;25aa7;25aa7;7aee;4202;25bab;7bc6;7bc9;4227;25c80;7cd2;42a0;7ce8;7ce3;7d00",
      "25f86;7d63;4301;7dc7;7e02;7e45;4334;26228;26247;4359;262d9;7f7a;2633e;7f95;7ffa;8005",
      "264da;26523;8060;265a8;8070;2335f;43d5;80b2;8103;440b;813e;5ab5;267a7;267b5;23393",
      "2339c;8201;8204;8f9e;446b;8291;828b;829d;52b3;82b1;82b3;82bd;82e6;26b3c;82e5;831d;8363",
      "83ad;8323;83bd;83e7;8457;8353;83ca;83cc;83dc;26c36;26d6b;26cd5;452b;84f1;84f3;8516",
      "273ca;8564;26f2c;455d;4561;26fb1;270d2;456b;8650;865c;8667;8669;86a9;8688;870e;86e2",
      "8779;8728;876b;8786;45d7;87e1;8801;45f9;8860;8863;27667;88d7;88de;4635;88fa;34bb;278ae",
      "27966;46be;46c7;8aa0;8aed;8b8a;8c55;27ca8;8cab;8cc1;8d1b;8d77;27f2f;20804;8dcb;8dbc",
      "8df0;208de;8ed4;8f38;285d2;285ed;9094;90f1;9111;2872e;911b;9238;92d7;92d8;927c;93f9",
      "9415;28bfa;958b;4995;95b7;28d77;49e6;96c3;5db2;9723;29145;2921a;4a6e;4a76;97e0;2940a",
      "4ab2;29496;980b;980b;9829;295b6;98e2;4b33;9929;99a7;99c2;99fe;4bce;29b30;9b12;9c40",
      "9cfd;4cce;4ced;9d67;2a0ce;4cf8;2a105;2a20e;2a291;9ebb;4d56;9ef9;9efe;9f05;9f0f;9f16",
      "9f3b;2a600"])]

/-! ## Variants -/

/-- What variants stand for; the listings stand with their first code points. -/
def compatibleParts : List (Nat × List String) :=
  [(0xaa, ["61"]), (0xb5, ["3bc"]), (0xba, ["6f"]), (0x132, ["49 4a;69 6a"]),
    (0x13f, ["4c b7;6c b7"]), (0x149, ["2bc 6e"]), (0x17f, ["73"]),
    (0x1c4, ["44 17d;44 17e;64 17e;4c 4a;4c 6a;6c 6a;4e 4a;4e 6a;6e 6a"]),
    (0x1f1, ["44 5a;44 7a;64 7a"]), (0x2b0, ["68;266;6a;72;279;27b;281;77;79"]),
    (0x2e0, ["263;6c;73;78;295"]), (0x3d0, ["3b2;3b8;3a5"]), (0x3d5, ["3c6;3c0"]),
    (0x3f0, ["3ba;3c1;3c2"]), (0x3f4, ["398;3b5"]), (0x3f9, ["3a3"]), (0x587, ["565 582"]),
    (0x675, ["627 674;648 674;6c7 674;64a 674"]), (0xe33, ["e4d e32"]), (0xeb3, ["ecd eb2"]),
    (0xedc, ["eab e99;eab ea1"]), (0xf77, ["fb2 f81"]), (0xf79, ["fb3 f81"]), (0x10fc, ["10dc"]),
    (0x1d2c, ["41;c6;42"]), (0x1d30, ["44;45;18e;47;48;49;4a;4b;4c;4d;4e"]),
    (0x1d3c, ["4f;222;50;52;54;55;57;61;250;251;1d02;62;64;65;259;25b;25c;67"]),
    (0x1d4f,
      ["6b;6d;14b;6f;254;1d16;1d17;70;74;75;1d1d;26f;76;1d25;3b2;3b3;3b4;3c6;3c7;69;72;75;76",
      "3b2;3b3;3c1;3c6;3c7"]),
    (0x1d78, ["43d"]),
    (0x1d9b,
      ["252;63;255;f0;25c;66;25f;261;265;268;269;26a;1d7b;29d;26d;1d85;29f;271;270;272;273;274",
      "275;278;282;283;1ab;289;28a;1d1c;28b;28c;7a;290;291;292;3b8"]),
    (0x1e9a, ["61 2be"]), (0x2071, ["69"]), (0x207f, ["6e"]),
    (0x2090, ["61;65;6f;78;259;68;6b;6c;6d;6e;70;73;74"]), (0x2102, ["43"]), (0x2107, ["190"]),
    (0x210a, ["67;48;48;48;68;127;49;49;4c;6c"]), (0x2115, ["4e"]), (0x2119, ["50;51;52;52;52"]),
    (0x2124, ["5a"]), (0x2128, ["5a"]), (0x212c, ["42;43"]), (0x212f, ["65;45;46"]),
    (0x2133, ["4d;6f;5d0;5d1;5d2;5d3;69"]), (0x213c, ["3c0;3b3;393;3a0"]),
    (0x2145, ["44;64;65;69;6a"]),
    (0x2160,
      ["49;49 49;49 49 49;49 56;56;56 49;56 49 49;56 49 49 49;49 58;58;58 49;58 49 49;4c;43;44",
      "4d;69;69 69;69 69 69;69 76;76;76 69;76 69 69;76 69 69 69;69 78;78;78 69;78 69 69;6c;63",
      "64;6d"]),
    (0x2c7c, ["6a;56"]), (0x2d6f, ["2d61"]), (0x3038, ["5341;5344;5345"]), (0x309f, ["3088 308a"]),
    (0x30ff, ["30b3 30c8"]),
    (0x3131,
      ["1100;1101;11aa;1102;11ac;11ad;1103;1104;1105;11b0;11b1;11b2;11b3;11b4;11b5;111a;1106",
      "1107;1108;1121;1109;110a;110b;110c;110d;110e;110f;1110;1111;1112;1161;1162;1163;1164",
      "1165;1166;1167;1168;1169;116a;116b;116c;116d;116e;116f;1170;1171;1172;1173;1174;1175",
      "1160;1114;1115;11c7;11c8;11cc;11ce;11d3;11d7;11d9;111c;11dd;11df;111d;111e;1120;1122",
      "1123;1127;1129;112b;112c;112d;112e;112f;1132;1136;1140;1147;114c;11f1;11f2;1157;1158",
      "1159;1184;1185;1188;1191;1192;1194;119e;11a1"]),
    (0xa69c, ["44a;44c"]), (0xa770, ["a76f"]), (0xa7f2, ["43;46;51"]), (0xa7f8, ["126;153"]),
    (0xab5c, ["a727;ab37;26b;ab52"]), (0xab69, ["28d"]),
    (0xfb00, ["66 66;66 69;66 6c;66 66 69;66 66 6c;17f 74;73 74"]),
    (0xfb13, ["574 576;574 565;574 56b;57e 576;574 56d"]),
    (0xfb20, ["5e2;5d0;5d3;5d4;5db;5dc;5dd;5e8;5ea"]),
    (0xfb4f,
      ["5d0 5dc;671;671;67b;67b;67b;67b;67e;67e;67e;67e;680;680;680;680;67a;67a;67a;67a;67f",
      "67f;67f;67f;679;679;679;679;6a4;6a4;6a4;6a4;6a6;6a6;6a6;6a6;684;684;684;684;683;683",
      "683;683;686;686;686;686;687;687;687;687;68d;68d;68c;68c;68e;68e;688;688;698;698;691",
      "691;6a9;6a9;6a9;6a9;6af;6af;6af;6af;6b3;6b3;6b3;6b3;6b1;6b1;6b1;6b1;6ba;6ba;6bb;6bb",
      "6bb;6bb;6c0;6c0;6c1;6c1;6c1;6c1;6be;6be;6be;6be;6d2;6d2;6d3;6d3"]),
    (0xfbd3,
      ["6ad;6ad;6ad;6ad;6c7;6c7;6c6;6c6;6c8;6c8;677;6cb;6cb;6c5;6c5;6c9;6c9;6d0;6d0;6d0;6d0",
      "649;649;626 627;626 627;626 6d5;626 6d5;626 648;626 648;626 6c7;626 6c7;626 6c6",
      "626 6c6;626 6c8;626 6c8;626 6d0;626 6d0;626 6d0;626 649;626 649;626 649;6cc;6cc;6cc",
      "6cc;626 62c;626 62d;626 645;626 649;626 64a;628 62c;628 62d;628 62e;628 645;628 649",
      "628 64a;62a 62c;62a 62d;62a 62e;62a 645;62a 649;62a 64a;62b 62c;62b 645;62b 649",
      "62b 64a;62c 62d;62c 645;62d 62c;62d 645;62e 62c;62e 62d;62e 645;633 62c;633 62d",
      "633 62e;633 645;635 62d;635 645;636 62c;636 62d;636 62e;636 645;637 62d;637 645",
      "638 645;639 62c;639 645;63a 62c;63a 645;641 62c;641 62d;641 62e;641 645;641 649",
      "641 64a;642 62d;642 645;642 649;642 64a;643 627;643 62c;643 62d;643 62e;643 644",
      "643 645;643 649;643 64a;644 62c;644 62d;644 62e;644 645;644 649;644 64a;645 62c",
      "645 62d;645 62e;645 645;645 649;645 64a;646 62c;646 62d;646 62e;646 645;646 649",
      "646 64a;647 62c;647 645;647 649;647 64a;64a 62c;64a 62d;64a 62e;64a 645;64a 649",
      "64a 64a;630 670;631 670;649 670"]),
    (0xfc64,
      ["626 631;626 632;626 645;626 646;626 649;626 64a;628 631;628 632;628 645;628 646",
      "628 649;628 64a;62a 631;62a 632;62a 645;62a 646;62a 649;62a 64a;62b 631;62b 632",
      "62b 645;62b 646;62b 649;62b 64a;641 649;641 64a;642 649;642 64a;643 627;643 644",
      "643 645;643 649;643 64a;644 645;644 649;644 64a;645 627;645 645;646 631;646 632",
      "646 645;646 646;646 649;646 64a;649 670;64a 631;64a 632;64a 645;64a 646;64a 649",
      "64a 64a;626 62c;626 62d;626 62e;626 645;626 647;628 62c;628 62d;628 62e;628 645",
      "628 647;62a 62c;62a 62d;62a 62e;62a 645;62a 647;62b 645;62c 62d;62c 645;62d 62c",
      "62d 645;62e 62c;62e 645;633 62c;633 62d;633 62e;633 645;635 62d;635 62e;635 645",
      "636 62c;636 62d;636 62e;636 645;637 62d;638 645;639 62c;639 645;63a 62c;63a 645",
      "641 62c;641 62d;641 62e;641 645;642 62d;642 645;643 62c;643 62d;643 62e;643 644",
      "643 645;644 62c;644 62d;644 62e;644 645;644 647;645 62c;645 62d;645 62e;645 645",
      "646 62c;646 62d;646 62e;646 645;646 647;647 62c;647 645;647 670;64a 62c;64a 62d",
      "64a 62e;64a 645;64a 647;626 645;626 647;628 645;628 647;62a 645;62a 647;62b 645",
      "62b 647;633 645;633 647;634 645;634 647;643 644;643 645;644 645;646 645;646 647",
      "64a 645;64a 647;640 64e 651;640 64f 651;640 650 651;637 649;637 64a;639 649;639 64a",
      "63a 649;63a 64a;633 649;633 64a;634 649;634 64a;62d 649;62d 64a;62c 649;62c 64a",
      "62e 649;62e 64a;635 649;635 64a;636 649;636 64a;634 62c;634 62d;634 62e;634 645",
      "634 631;633 631;635 631;636 631;637 649;637 64a;639 649;639 64a;63a 649;63a 64a",
      "633 649;633 64a;634 649;634 64a;62d 649;62d 64a;62c 649;62c 64a;62e 649;62e 64a",
      "635 649;635 64a;636 649;636 64a;634 62c;634 62d;634 62e;634 645;634 631;633 631",
      "635 631;636 631;634 62c;634 62d;634 62e;634 645;633 647;634 647;637 645;633 62c",
      "633 62d;633 62e;634 62c;634 62d;634 62e;637 645;638 645;627 64b;627 64b"]),
    (0xfd50,
      ["62a 62c 645;62a 62d 62c;62a 62d 62c;62a 62d 645;62a 62e 645;62a 645 62c;62a 645 62d",
      "62a 645 62e;62c 645 62d;62c 645 62d;62d 645 64a;62d 645 649;633 62d 62c;633 62c 62d",
      "633 62c 649;633 645 62d;633 645 62d;633 645 62c;633 645 645;633 645 645;635 62d 62d",
      "635 62d 62d;635 645 645;634 62d 645;634 62d 645;634 62c 64a;634 645 62e;634 645 62e",
      "634 645 645;634 645 645;636 62d 649;636 62e 645;636 62e 645;637 645 62d;637 645 62d",
      "637 645 645;637 645 64a;639 62c 645;639 645 645;639 645 645;639 645 649;63a 645 645",
      "63a 645 64a;63a 645 649;641 62e 645;641 62e 645;642 645 62d;642 645 645;644 62d 645",
      "644 62d 64a;644 62d 649;644 62c 62c;644 62c 62c;644 62e 645;644 62e 645;644 645 62d",
      "644 645 62d;645 62d 62c;645 62d 645;645 62d 64a;645 62c 62d;645 62c 645;645 62e 62c",
      "645 62e 645"]),
    (0xfd92,
      ["645 62c 62e;647 645 62c;647 645 645;646 62d 645;646 62d 649;646 62c 645;646 62c 645",
      "646 62c 649;646 645 64a;646 645 649;64a 645 645;64a 645 645;628 62e 64a;62a 62c 64a",
      "62a 62c 649;62a 62e 64a;62a 62e 649;62a 645 64a;62a 645 649;62c 645 64a;62c 62d 649",
      "62c 645 649;633 62e 649;635 62d 64a;634 62d 64a;636 62d 64a;644 62c 64a;644 645 64a",
      "64a 62d 64a;64a 62c 64a;64a 645 64a;645 645 64a;642 645 64a;646 62d 64a;642 645 62d",
      "644 62d 645;639 645 64a;643 645 64a;646 62c 62d;645 62e 64a;644 62c 645;643 645 645",
      "644 62c 645;646 62c 62d;62c 62d 64a;62d 62c 64a;645 62c 64a;641 645 64a;628 62d 64a",
      "643 645 645;639 62c 645;635 645 645;633 62e 64a;646 62c 64a"]),
    (0xfdf0,
      ["635 644 6d2;642 644 6d2;627 644 644 647;627 643 628 631;645 62d 645 62f",
      "635 644 639 645;631 633 648 644;639 644 64a 647;648 633 644 645;635 644 649"]),
    (0xfe33, ["5f;5f"]), (0xfe4d, ["5f;5f;5f"]), (0xfe71, ["640 64b"]), (0xfe77, ["640 64e"]),
    (0xfe79, ["640 64f"]), (0xfe7b, ["640 650"]), (0xfe7d, ["640 651"]),
    (0xfe7f,
      ["640 652;621;622;622;623;623;624;624;625;625;626;626;626;626;627;627;628;628;628;628",
      "629;629;62a;62a;62a;62a;62b;62b;62b;62b;62c;62c;62c;62c;62d;62d;62d;62d;62e;62e;62e",
      "62e;62f;62f;630;630;631;631;632;632;633;633;633;633;634;634;634;634;635;635;635;635",
      "636;636;636;636;637;637;637;637;638;638;638;638;639;639;639;639;63a;63a;63a;63a;641",
      "641;641;641;642;642;642;642;643;643;643;643;644;644;644;644;645;645;645;645;646;646",
      "646;646;647;647;647;647;648;648;649;649;64a;64a;64a;64a;644 622;644 622;644 623",
      "644 623;644 625;644 625;644 627;644 627"]),
    (0xff10, ["30;31;32;33;34;35;36;37;38;39"]),
    (0xff21, ["41;42;43;44;45;46;47;48;49;4a;4b;4c;4d;4e;4f;50;51;52;53;54;55;56;57;58;59;5a"]),
    (0xff3f, ["5f"]),
    (0xff41, ["61;62;63;64;65;66;67;68;69;6a;6b;6c;6d;6e;6f;70;71;72;73;74;75;76;77;78;79;7a"]),
    (0xff66,
      ["30f2;30a1;30a3;30a5;30a7;30a9;30e3;30e5;30e7;30c3;30fc;30a2;30a4;30a6;30a8;30aa;30ab",
      "30ad;30af;30b1;30b3;30b5;30b7;30b9;30bb;30bd;30bf;30c1;30c4;30c6;30c8;30ca;30cb;30cc",
      "30cd;30ce;30cf;30d2;30d5;30d8;30db;30de;30df;30e0;30e1;30e2;30e4;30e6;30e8;30e9;30ea",
      "30eb;30ec;30ed;30ef;30f3;3099;309a;3164;3131;3132;3133;3134;3135;3136;3137;3138;3139",
      "313a;313b;313c;313d;313e;313f;3140;3141;3142;3143;3144;3145;3146;3147;3148;3149;314a",
      "314b;314c;314d;314e"]),
    (0xffc2, ["314f;3150;3151;3152;3153;3154"]), (0xffca, ["3155;3156;3157;3158;3159;315a"]),
    (0xffd2, ["315b;315c;315d;315e;315f;3160"]), (0xffda, ["3161;3162;3163"]),
    (0x10781, ["2d0;2d1;e6;299;253"]),
    (0x10787,
      ["2a3;ab66;2a5;2a4;256;257;1d91;258;25e;2a9;264;262;260;29b;127;29c;267;284;2aa;2ab;26c",
      "1df04;a78e;26e;1df05;28e;1df06;f8;276;277;71;27a;1df08;27d;27e;280;2a8;2a6;ab67;2a7",
      "288;2c71"]),
    (0x107b2, ["28f;2a1;2a2;298;1c0;1c1;1c2;1df0a;1df1e"]),
    (0x1d400,
      ["41;42;43;44;45;46;47;48;49;4a;4b;4c;4d;4e;4f;50;51;52;53;54;55;56;57;58;59;5a;61;62;63",
      "64;65;66;67;68;69;6a;6b;6c;6d;6e;6f;70;71;72;73;74;75;76;77;78;79;7a;41;42;43;44;45;46",
      "47;48;49;4a;4b;4c;4d;4e;4f;50;51;52;53;54;55;56;57;58;59;5a;61;62;63;64;65;66;67"]),
    (0x1d456,
      ["69;6a;6b;6c;6d;6e;6f;70;71;72;73;74;75;76;77;78;79;7a;41;42;43;44;45;46;47;48;49;4a;4b",
      "4c;4d;4e;4f;50;51;52;53;54;55;56;57;58;59;5a;61;62;63;64;65;66;67;68;69;6a;6b;6c;6d;6e",
      "6f;70;71;72;73;74;75;76;77;78;79;7a;41"]),
    (0x1d49e, ["43;44"]), (0x1d4a2, ["47"]), (0x1d4a5, ["4a;4b"]), (0x1d4a9, ["4e;4f;50;51"]),
    (0x1d4ae, ["53;54;55;56;57;58;59;5a;61;62;63;64"]), (0x1d4bb, ["66"]),
    (0x1d4bd, ["68;69;6a;6b;6c;6d;6e"]),
    (0x1d4c5,
      ["70;71;72;73;74;75;76;77;78;79;7a;41;42;43;44;45;46;47;48;49;4a;4b;4c;4d;4e;4f;50;51;52",
      "53;54;55;56;57;58;59;5a;61;62;63;64;65;66;67;68;69;6a;6b;6c;6d;6e;6f;70;71;72;73;74;75",
      "76;77;78;79;7a;41;42"]),
    (0x1d507, ["44;45;46;47"]), (0x1d50d, ["4a;4b;4c;4d;4e;4f;50;51"]),
    (0x1d516, ["53;54;55;56;57;58;59"]),
    (0x1d51e, ["61;62;63;64;65;66;67;68;69;6a;6b;6c;6d;6e;6f;70;71;72;73;74;75;76;77;78;79;7a;41;42"]),
    (0x1d53b, ["44;45;46;47"]), (0x1d540, ["49;4a;4b;4c;4d"]), (0x1d546, ["4f"]),
    (0x1d54a, ["53;54;55;56;57;58;59"]),
    (0x1d552,
      ["61;62;63;64;65;66;67;68;69;6a;6b;6c;6d;6e;6f;70;71;72;73;74;75;76;77;78;79;7a;41;42;43",
      "44;45;46;47;48;49;4a;4b;4c;4d;4e;4f;50;51;52;53;54;55;56;57;58;59;5a;61;62;63;64;65;66",
      "67;68;69;6a;6b;6c;6d;6e;6f;70;71;72;73;74;75;76;77;78;79;7a;41;42;43;44;45;46;47;48;49",
      "4a;4b;4c;4d;4e;4f;50;51;52;53;54;55;56;57;58;59;5a;61;62;63;64;65;66;67;68;69;6a;6b;6c",
      "6d;6e;6f;70;71;72;73;74;75;76;77;78;79;7a;41;42;43;44;45;46;47;48;49;4a;4b;4c;4d;4e;4f",
      "50;51;52;53;54;55;56;57;58;59;5a;61;62;63;64;65;66;67;68;69;6a;6b;6c;6d;6e;6f;70;71;72",
      "73;74;75;76;77;78;79;7a;41;42;43;44;45;46;47;48;49;4a;4b;4c;4d;4e;4f;50;51;52;53;54;55",
      "56;57;58;59;5a;61;62;63;64;65;66;67;68;69;6a;6b;6c;6d;6e;6f;70;71;72;73;74;75;76;77;78",
      "79;7a;41;42;43;44;45;46;47;48;49;4a;4b;4c;4d;4e;4f;50;51;52;53;54;55;56;57;58;59;5a;61",
      "62;63;64;65;66;67;68;69;6a;6b;6c;6d;6e;6f;70;71;72;73;74;75;76;77;78;79;7a;41;42;43;44",
      "45;46;47;48;49;4a;4b;4c;4d;4e;4f;50;51;52;53;54;55;56;57;58;59;5a;61;62;63;64;65;66;67",
      "68;69;6a;6b;6c;6d;6e;6f;70;71;72;73;74;75;76;77;78;79;7a;131;237"]),
    (0x1d6a8,
      ["391;392;393;394;395;396;397;398;399;39a;39b;39c;39d;39e;39f;3a0;3a1;3f4;3a3;3a4;3a5",
      "3a6;3a7;3a8;3a9"]),
    (0x1d6c2,
      ["3b1;3b2;3b3;3b4;3b5;3b6;3b7;3b8;3b9;3ba;3bb;3bc;3bd;3be;3bf;3c0;3c1;3c2;3c3;3c4;3c5",
      "3c6;3c7;3c8;3c9"]),
    (0x1d6dc,
      ["3f5;3d1;3f0;3d5;3f1;3d6;391;392;393;394;395;396;397;398;399;39a;39b;39c;39d;39e;39f",
      "3a0;3a1;3f4;3a3;3a4;3a5;3a6;3a7;3a8;3a9"]),
    (0x1d6fc,
      ["3b1;3b2;3b3;3b4;3b5;3b6;3b7;3b8;3b9;3ba;3bb;3bc;3bd;3be;3bf;3c0;3c1;3c2;3c3;3c4;3c5",
      "3c6;3c7;3c8;3c9"]),
    (0x1d716,
      ["3f5;3d1;3f0;3d5;3f1;3d6;391;392;393;394;395;396;397;398;399;39a;39b;39c;39d;39e;39f",
      "3a0;3a1;3f4;3a3;3a4;3a5;3a6;3a7;3a8;3a9"]),
    (0x1d736,
      ["3b1;3b2;3b3;3b4;3b5;3b6;3b7;3b8;3b9;3ba;3bb;3bc;3bd;3be;3bf;3c0;3c1;3c2;3c3;3c4;3c5",
      "3c6;3c7;3c8;3c9"]),
    (0x1d750,
      ["3f5;3d1;3f0;3d5;3f1;3d6;391;392;393;394;395;396;397;398;399;39a;39b;39c;39d;39e;39f",
      "3a0;3a1;3f4;3a3;3a4;3a5;3a6;3a7;3a8;3a9"]),
    (0x1d770,
      ["3b1;3b2;3b3;3b4;3b5;3b6;3b7;3b8;3b9;3ba;3bb;3bc;3bd;3be;3bf;3c0;3c1;3c2;3c3;3c4;3c5",
      "3c6;3c7;3c8;3c9"]),
    (0x1d78a,
      ["3f5;3d1;3f0;3d5;3f1;3d6;391;392;393;394;395;396;397;398;399;39a;39b;39c;39d;39e;39f",
      "3a0;3a1;3f4;3a3;3a4;3a5;3a6;3a7;3a8;3a9"]),
    (0x1d7aa,
      ["3b1;3b2;3b3;3b4;3b5;3b6;3b7;3b8;3b9;3ba;3bb;3bc;3bd;3be;3bf;3c0;3c1;3c2;3c3;3c4;3c5",
      "3c6;3c7;3c8;3c9"]),
    (0x1d7c4, ["3f5;3d1;3f0;3d5;3f1;3d6;3dc;3dd"]),
    (0x1d7ce,
      ["30;31;32;33;34;35;36;37;38;39;30;31;32;33;34;35;36;37;38;39;30;31;32;33;34;35;36;37;38",
      "39;30;31;32;33;34;35;36;37;38;39;30;31;32;33;34;35;36;37;38;39"]),
    (0x1ee00, ["627;628;62c;62f"]),
    (0x1ee05,
      ["648;632;62d;637;64a;643;644;645;646;633;639;641;635;642;631;634;62a;62b;62e;630;636",
      "638;63a;66e;6ba;6a1;66f"]),
    (0x1ee21, ["628;62c"]), (0x1ee24, ["647"]), (0x1ee27, ["62d"]),
    (0x1ee29, ["64a;643;644;645;646;633;639;641;635;642"]), (0x1ee34, ["634;62a;62b;62e"]),
    (0x1ee39, ["636"]), (0x1ee3b, ["63a"]), (0x1ee42, ["62c"]), (0x1ee47, ["62d"]),
    (0x1ee49, ["64a"]), (0x1ee4b, ["644"]), (0x1ee4d, ["646;633;639"]), (0x1ee51, ["635;642"]),
    (0x1ee54, ["634"]), (0x1ee57, ["62e"]), (0x1ee59, ["636"]), (0x1ee5b, ["63a"]),
    (0x1ee5d, ["6ba"]), (0x1ee5f, ["66f"]), (0x1ee61, ["628;62c"]), (0x1ee64, ["647"]),
    (0x1ee67, ["62d;637;64a;643"]), (0x1ee6c, ["645;646;633;639;641;635;642"]),
    (0x1ee74, ["634;62a;62b;62e"]), (0x1ee79, ["636;638;63a;66e"]), (0x1ee7e, ["6a1"]),
    (0x1ee80, ["627;628;62c;62f;647;648;632;62d;637;64a"]),
    (0x1ee8b, ["644;645;646;633;639;641;635;642;631;634;62a;62b;62e;630;636;638;63a"]),
    (0x1eea1, ["628;62c;62f"]), (0x1eea5, ["648;632;62d;637;64a"]),
    (0x1eeab, ["644;645;646;633;639;641;635;642;631;634;62a;62b;62e;630;636;638;63a"]),
    (0x1fbf0, ["30;31;32;33;34;35;36;37;38;39"])]

end FormulaCube.Text
