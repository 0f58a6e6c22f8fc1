/-!
# Known answers

The digests of 64 bytes of the messages of length 0 to 255 under one key. The
key is the bytes 0 to 63, and the message of length `n` is the bytes 0 to
`n - 1`. A digest is given as two numbers, whose bytes are its two halves with
the most significant byte first.
-/

namespace Blake2b.KnownAnswer

/-- The number of known answers. -/
abbrev count : Nat := 256

/-- The digests, by the length of the message. -/
def table : List (Nat × Nat) :=
  [(0x10ebb67700b1868efb4417987acf4690ae9d972fb7a590c2f02871799aaa4786,
    0xb5e996e8f0f4eb981fc214b005f42d2ff4233499391653df7aefcbc13fc51568),
   (0x961f6dd1e4dd30f63901690c512e78e4b45e4742ed197c3c5e45c549fd25f2e4,
    0x187b0bc9fe30492b16b0d0bc4ef9b0f34c7003fac09a5ef1532e69430234cebd),
   (0xda2cfbe2d8409a0f38026113884f84b50156371ae304c4430173d08a99d9fb1b,
    0x983164a3770706d537f49e0c916d9f32b95cc37a95b99d857436f0232c88a965),
   (0x33d0825dddf7ada99b0e7e307104ad07ca9cfd9692214f1561356315e784f3e5,
    0xa17e364ae9dbb14cb2036df932b77f4b292761365fb328de7afdc6d8998f5fc1),
   (0xbeaa5a3d08f3807143cf621d95cd690514d0b49efff9c91d24b59241ec0eefa5,
    0xf60196d407048bba8d2146828ebcb0488d8842fd56bb4f6df8e19c4b4daab8ac),
   (0x098084b51fd13deae5f4320de94a688ee07baea2800486689a8636117b46c1f4,
    0xc1f6af7f74ae7c857600456a58a3af251dc4723a64cc7c0a5ab6d9cac91c20bb),
   (0x6044540d560853eb1c57df0077dd381094781cdb9073e5b1b3d3f6c7829e1206,
    0x6bbaca96d989a690de72ca3133a83652ba284a6d62942b271ffa2620c9e75b1f),
   (0x7a8cfe9b90f75f7ecb3acc053aaed6193112b6f6a4aeeb3f65d3de541942deb9,
    0xe2228152a3c4bbbe72fc3b12629528cfbb09fe630f0474339f54abf453e2ed52),
   (0x380beaf6ea7cc9365e270ef0e6f3a64fb902acae51dd5512f84259ad2c91f4bc,
    0x4108db73192a5bbfb0cbcf71e46c3e21aee1c5e860dc96e8eb0b7b8426e6abe9),
   (0x60fe3c4535e1b59d9a61ea8500bfac41a69dffb1ceadd9aca323e9a625b64da5,
    0x763bad7226da02b9c8c4f1a5de140ac5a6c1124e4f718ce0b28ea47393aa6637),
   (0x4fe181f54ad63a2983feaaf77d1e7235c2beb17fa328b6d9505bda327df19fc3,
    0x7f02c4b6f0368ce23147313a8e5738b5fa2a95b29de1c7f8264eb77b69f585cd),
   (0xf228773ce3f3a42b5f144d63237a72d99693adb8837d0e112a8a0f8ffff2c362,
    0x857ac49c11ec740d1500749dac9b1f4548108bf3155794dcc9e4082849e2b85b),
   (0x962452a8455cc56c8511317e3b1f3b2c37df75f588e94325fdd77070359cf63a,
    0x9ae6e930936fdf8e1e08ffca440cfb72c28f06d89a2151d1c46cd5b268ef8563),
   (0x43d44bfa18768c59896bf7ed1765cb2d14af8c260266039099b25a603e4ddc50,
    0x39d6ef3a91847d1088d401c0c7e847781a8a590d33a3c6cb4df0fab1c2f22355),
   (0xdcffa9d58c2a4ca2cdbb0c7aa4c4c1d45165190089f4e983bb1c2cab4aaeff1f,
    0xa2b5ee516fecd780540240bf37e56c8bcca7fab980e1e61c9400d8a9a5b14ac6),
   (0x6fbf31b45ab0c0b8dad1c0f5f4061379912dde5aa922099a030b725c73346c52,
    0x4291adef89d2f6fd8dfcda6d07dad811a9314536c2915ed45da34947e83de34e),
   (0xa0c65bddde8adef57282b04b11e7bc8aab105b99231b750c021f4a735cb1bcfa,
    0xb87553bba3abb0c3e64a0b6955285185a0bd35fb8cfde557329bebb1f629ee93),
   (0xf99d815550558e81eca2f96718aed10d86f3f1cfb675cce06b0eff02f617c5a4,
    0x2c5aa760270f2679da2677c5aeb94f1142277f21c7f79f3c4f0cce4ed8ee62b1),
   (0x95391da8fc7b917a2044b3d6f5374e1ca072b41454d572c7356c05fd4bc1e0f4,
    0x0b8bb8b4a9f6bce9be2c4623c399b0dca0dab05cb7281b71a21b0ebcd9e55670),
   (0x04b9cd3d20d221c09ac86913d3dc63041989a9a1e694f1e639a3ba7e451840f7,
    0x50c2fc191d56ad61f2e7936bc0ac8e094b60caeed878c18799045402d61ceaf9),
   (0xec0e0ef707e4ed6c0c66f9e089e4954b058030d2dd86398fe84059631f9ee591,
    0xd9d77375355149178c0cf8f8e7c49ed2a5e4f95488a2247067c208510fadc44c),
   (0x9a37cce273b79c09913677510eaf7688e89b3314d3532fd2764c39de022a2945,
    0xb5710d13517af8ddc0316624e73bec1ce67df15228302036f330ab0cb4d218dd),
   (0x4cf9bb8fb3d4de8b38b2f262d3c40f46dfe747e8fc0a414c193d9fcf753106ce,
    0x47a18f172f12e8a2f1c26726545358e5ee28c9e2213a8787aafbc516d2343152),
   (0x64e0c63af9c808fd893137129867fd91939d53f2af04be4fa268006100069b2d,
    0x69daa5c5d8ed7fddcb2a70eeecdf2b105dd46a1e3b7311728f639ab489326bc9),
   (0x5e9c93158d659b2def06b0c3c7565045542662d6eee8a96a89b78ade09fe8b3d,
    0xcc096d4fe48815d88d8f82620156602af541955e1f6ca30dce14e254c326b88f),
   (0x7775dff889458dd11aef417276853e21335eb88e4dec9cfb4e9edb4982008855,
    0x1a2ca60339f12066101169f0dfe84b098fddb148d9da6b3d613df263889ad64b),
   (0xf0d2805afbb91f743951351a6d024f9353a23c7ce1fc2b051b3a8b968c233f46,
    0xf50f806ecb1568ffaa0b60661e334b21dde04f8fa155ac740eeb42e20b60d764),
   (0x86a2af316e7d7754201b942e275364ac12ea8962ab5bd8d7fb276dc5fbffc8f9,
    0xa28cae4e4867df6780d9b72524160927c855da5b6078e0b554aa91e31cb9ca1d),
   (0x10bdf0caa0802705e706369baf8a3f79d72c0a03a80675a7bbb00be3a45e5164,
    0x24d1ee88efb56f6d5777545ae6e27765c3a8f5e493fc308915638933a1dfee55),
   (0xb01781092b1748459e2e4ec178696627bf4ebafebba774ecf018b79a68aeb849,
    0x17bf0b84bb79d17b743151144cd66b7b33a4b9e52c76c4e112050ff5385b7f0b),
   (0xc6dbc61dec6eaeac81e3d5f755203c8e220551534a0b2fd105a91889945a6385,
    0x50204f44093dd998c076205dffad703a0e5cd3c7f438a7e634cd59fededb539e),
   (0xeba51acffb4cea31db4b8d87e9bf7dd48fe97b0253ae67aa580f9ac4a9d941f2,
    0xbea518ee286818cc9f633f2a3b9fb68e594b48cdd6d515bf1d52ba6c85a203a7),
   (0x86221f3ada52037b72224f105d7999231c5e5534d03da9d9c0a12acb68460cd3,
    0x75daf8e24386286f9668f72326dbf99ba094392437d398e95bb8161d717f8991),
   (0x5595e05c13a7ec4dc8f41fb70cb50a71bce17c024ff6de7af618d0cc4e9c32d9,
    0x570d6d3ea45b86525491030c0d8f2b1836d5778c1ce735c17707df364d054347),
   (0xce0f4f6aca89590a37fe034dd74dd5fa65eb1cbd0a41508aaddc09351a3cea6d,
    0x18cb2189c54b700c009f4cbf0521c7ea01be61c5ae09cb54f27bc1b44d658c82),
   (0x7ee80b06a215a3bca970c77cda8761822bc103d44fa4b33f4d07dcb997e36d55,
    0x298bceae12241b3fa07fa63be5576068da387b8d5859aeab701369848b176d42),
   (0x940a84b6a84d109aab208c024c6ce9647676ba0aaa11f86dbb7018f9fd2220a6,
    0xd901a9027f9abcf935372727cbf09ebd61a2a2eeb87653e8ecad1bab85dc8327),
   (0x2020b78264a82d9f4151141adba8d44bf20c5ec062eee9b595a11f9e84901bf1,
    0x48f298e0c9f8777dcdbc7cc4670aac356cc2ad8ccb1629f16f6a76bcefbee760),
   (0xd1b897b0e075ba68ab572adf9d9c436663e43eb3d8e62d92fc49c9be214e6f27,
    0x873fe215a65170e6bea902408a25b49506f47babd07cecf7113ec10c5dd31252),
   (0xb14d0c62abfa469a357177e594c10c194243ed2025ab8aa5ad2fa41ad318e0ff,
    0x48cd5e60bec07b13634a711d2326e488a985f31e31153399e73088efc86a5c55),
   (0x4169c5cc808d2697dc2a82430dc23e3cd356dc70a94566810502b8d655b39abf,
    0x9e7f902fe717e0389219859e1945df1af6ada42e4ccda55a197b7100a30c30a1),
   (0x258a4edb113d66c839c8b1c91f15f35ade609f11cd7f8681a4045b9fef7b0b24,
    0xc82cda06a5f2067b368825e3914e53d6948ede92efd6e8387fa2e537239b5bee),
   (0x79d2d8696d30f30fb34657761171a11e6c3f1e64cbe7bebee159cb95bfaf812b,
    0x4f411e2f26d9c421dc2c284a3342d823ec293849e42d1e46b0a4ac1e3c86abaa),
   (0x8b9436010dc5dee992ae38aea97f2cd63b946d94fedd2ec9671dcde3bd4ce956,
    0x4d555c66c15bb2b900df72edb6b891ebcadfeff63c9ea4036a998be7973981e7),
   (0xc8f68e696ed28242bf997f5b3b34959508e42d613810f1e2a435c96ed2ff560c,
    0x7022f361a9234b9837feee90bf47922ee0fd5f8ddf823718d86d1e16c6090071),
   (0xb02d3eee4860d5868b2c39ce39bfe81011290564dd678c85e8783f29302dfc13,
    0x99ba95b6b53cd9ebbf400cca1db0ab67e19a325f2d115812d25d00978ad1bca4),
   (0x7693ea73af3ac4dad21ca0d8da85b3118a7d1c6024cfaf557699868217bc0c2f,
    0x44a199bc6c0edd519798ba05bd5b1b4484346a47c2cadf6bf30b785cc88b2baf),
   (0xa0e5c1c0031c02e48b7f09a5e896ee9aef2f17fc9e18e997d7f6cac7ae316422,
    0xc2b1e77984e5f3a73cb45deed5d3f84600105e6ee38f2d090c7d0442ea34c46d),
   (0x41daa6adcfdb69f1440c37b596440165c15ada596813e2e22f060fcd551f24de,
    0xe8e04ba6890387886ceec4a7a0d7fc6b44506392ec3822c0d8c1acfc7d5aebe8),
   (0x14d4d40d5984d84c5cf7523b7798b254e275a3a8cc0a1bd06ebc0bee726856ac,
    0xc3cbf516ff667cda2058ad5c3412254460a82c92187041363cc77a4dc215e487),
   (0xd0e7a1e2b9a447fee83e2277e9ff8010c2f375ae12fa7aaa8ca5a6317868a26a,
    0x367a0b69fbc1cf32a55d34eb370663016f3d2110230eba754028a56f54acf57c),
   (0xe771aa8db5a3e043e8178f39a0857ba04a3f18e4aa05743cf8d222b0b0958253,
    0x50ba422f63382a23d92e4149074e816a36c1cd28284d146267940b31f8818ea2),
   (0xfeb4fd6f9e87a56bef398b3284d2bda5b5b0e166583a66b61e538457ff058487,
    0x2c21a32962b9928ffab58de4af2edd4e15d8b35570523207ff4e2a5aa7754caa),
   (0x462f17bf005fb1c1b9e671779f665209ec2873e3e411f98dabf240a1d5ec3f95,
    0xce6796b6fc23fe171903b502023467dec7273ff74879b92967a2a43a5a183d33),
   (0xd3338193b64553dbd38d144bea71c5915bb110e2d88180dbc5db364fd6171df3,
    0x17fc7268831b5aef75e4342b2fad8797ba39eddcef80e6ec08159350b1ad696d),
   (0xe1590d585a3d39f7cb599abd479070966409a6846d4377acf4471d065d5db941,
    0x29cc9be92573b05ed226be1e9b7cb0cabe87918589f80dadd4ef5ef25a93d28e),
   (0xf8f3726ac5a26cc80132493a6fedcb0e60760c09cfc84cad178175986819665e,
    0x76842d7b9fedf76dddebf5d3f56faaad4477587af21606d396ae570d8e719af2),
   (0x30186055c07949948183c850e9a756cc09937e247d9d928e869e20bafc3cd972,
    0x1719d34e04a0899b92c736084550186886efba2e790d8be6ebf040b209c439a4),
   (0xf3c4276cb863637712c241c444c5cc1e3554e0fddb174d035819dd83eb700b4c,
    0xe88df3ab3841ba02085e1a99b4e17310c5341075c0458ba376c95a6818fbb3e2),
   (0x0aa007c4dd9d5832393040a1583c930bca7dc5e77ea53add7e2b3f7c8e231368,
    0x043520d4a3ef53c969b6bbfd025946f632bd7f765d53c21003b8f983f75e2a6a),
   (0x08e9464720533b23a04ec24f7ae8c103145f765387d738777d3d343477fd1c58,
    0xdb052142cab754ea674378e18766c53542f71970171cc4f81694246b717d7564),
   (0xd37ff7ad297993e7ec21e0f1b4b5ae719cdc83c5db687527f27516cbffa82288,
    0x8a6810ee5c1ca7bfe3321119be1ab7bfa0a502671c8329494df7ad6f522d440f),
   (0xdd9042f6e464dcf86b1262f6accfafbd8cfd902ed3ed89abf78ffa482dbdeeb6,
    0x969842394c9a1168ae3d481a017842f660002d42447c6b22f7b72f21aae021c9),
   (0xbd965bf31e87d70327536f2a341cebc4768eca275fa05ef98f7f1b71a0351298,
    0xde006fba73fe6733ed01d75801b4a928e54231b38e38c562b2e33ea1284992fa),
   (0x65676d800617972fbd87e4b9514e1c67402b7a331096d3bfac22f1abb95374ab,
    0xc942f16e9ab0ead33b87c91968a6e509e119ff07787b3ef483e1dcdccf6e3022),
   (0x939fa189699c5d2c81ddd1ffc1fa207c970b6a3685bb29ce1d3e99d42f2f7442,
    0xda53e95a72907314f4588399a3ff5b0a92beb3f6be2694f9f86ecf2952d5b41c),
   (0xc516541701863f91005f314108ceece3c643e04fc8c42fd2ff556220e616aaa6,
    0xa48aeb97a84bad74782e8dff96a1a2fa949339d722edcaa32b57067041df88cc),
   (0x987fd6e0d6857c553eaebb3d34970a2c2f6e89a3548f492521722b80a1c21a15,
    0x3892346d2cba6444212d56da9a26e324dccbc0dcde85d4d2ee4399eec5a64e8f),
   (0xae56deb1c2328d9c4017706bce6e99d41349053ba9d336d677c4c27d9fd50ae6,
    0xaee17e853154e1f4fe7672346da2eaa31eea53fcf24a22804f11d03da6abfc2b),
   (0x49d6a608c9bde4491870498572ac31aac3fa40938b38a7818f72383eb040ad39,
    0x532bc06571e13d767e6945ab77c0bdc3b0284253343f9f6c1244ebf2ff0df866),
   (0xda582ad8c5370b4469af862aa6467a2293b2b28bd80ae0e91f425ad3d47249fd,
    0xf98825cc86f14028c3308c9804c78bfeeeee461444ce243687e1a50522456a1d),
   (0xd5266aa3331194aef852eed86d7b5b2633a0af1c735906f2e13279f14931a9fc,
    0x3b0eac5ce9245273bd1aa92905abe16278ef7efd47694789a7283b77da3c70f8),
   (0x2962734c28252186a9a1111c732ad4de4506d4b4480916303eb7991d659ccda0,
    0x7a9911914bc75c418ab7a4541757ad054796e26797feaf36e9f6ad43f14b35a4),
   (0xe8b79ec5d06e111bdfafd71e9f5760f00ac8ac5d8bf768f9ff6f08b8f026096b,
    0x1cc3a4c973333019f1e3553e77da3f98cb9f542e0a90e5f8a940cc58e59844b3),
   (0xdfb320c44f9d41d1efdcc015f08dd5539e526e39c87d509ae6812a969e5431bf,
    0x4fa7d91ffd03b981e0d544cf72d7b1c0374f8801482e6dea2ef903877eba675e),
   (0xd88675118fdb55a5fb365ac2af1d217bf526ce1ee9c94b2f0090b2c58a06ca58,
    0x187d7fe57c7bed9d26fca067b4110eefcd9a0a345de872abe20de368001b0745),
   (0xb893f2fc41f7b0dd6e2f6aa2e0370c0cff7df09e3acfcc0e920b6e6fad0ef747,
    0xc40668417d342b80d2351e8c175f20897a062e9765e6c67b539b6ba8b9170545),
   (0x6c67ec5697accd235c59b486d7b70baeedcbd4aa64ebd4eef3c7eac189561a72,
    0x6250aec4d48cadcafbbe2ce3c16ce2d691a8cce06e8879556d4483ed7165c063),
   (0xf1aa2b044f8f0c638a3f362e677b5d891d6fd2ab0765f6ee1e4987de057ead35,
    0x7883d9b405b9d609eea1b869d97fb16d9b51017c553f3b93c0a1e0f1296fedcd),
   (0xcbaa259572d4aebfc1917acddc582b9f8dfaa928a198ca7acd0f2aa76a134a90,
    0x252e6298a65b08186a350d5b7626699f8cb721a3ea5921b753ae3a2dce24ba3a),
   (0xfa1549c9796cd4d303dcf452c1fbd5744fd9b9b47003d920b92de34839d07ef2,
    0xa29ded68f6fc9e6c45e071a2e48bd50c5084e96b657dd0404045a1ddefe282ed),
   (0x5cf2ac897ab444dcb5c8d87c495dbdb34e1838b6b629427caa51702ad0f96885,
    0x25f13bec503a3c3a2c80a65e0b5715e8afab00ffa56ec455a49a1ad30aa24fcd),
   (0x9aaf80207bace17bb7ab145757d5696bde32406ef22b44292ef65d4519c3bb2a,
    0xd41a59b62cc3e94b6fa96d32a7faadae28af7d35097219aa3fd8cda31e40c275),
   (0xaf88b163402c86745cb650c2988fb95211b94b03ef290eed9662034241fd51cf,
    0x398f8073e369354c43eae1052f9b63b08191caa138aa54fea889cc7024236897),
   (0x48fa7d64e1ceee27b9864db5ada4b53d00c9bc7626555813d3cd6730ab3cc06f,
    0xf342d727905e33171bde6e8476e77fb1720861e94b73a2c538d254746285f430),
   (0x0e6fd97a85e904f87bfe85bbeb34f69e1f18105cf4ed4f87aec36c6e8b5f68bd,
    0x2a6f3dc8a9ecb2b61db4eedb6b2ea10bf9cb0251fb0f8b344abf7f366b6de5ab),
   (0x06622da5787176287fdc8fed440bad187d830099c94e6d04c8e9c954cda70c8b,
    0xb9e1fc4a6d0baa831b9b78ef6648681a4867a11da93ee36e5e6a37d87fc63f6f),
   (0x1da6772b58fabf9c61f68d412c82f182c0236d7d575ef0b58dd22458d643cd1d,
    0xfc93b03871c316d8430d312995d4197f0874c99172ba004a01ee295abac24e46),
   (0x3cd2d9320b7b1d5fb9aab951a76023fa667be14a9124e394513918a3f44096ae,
    0x4904ba0ffc150b63bc7ab1eeb9a6e257e5c8f000a70394a5afd842715de15f29),
   (0x04cdc14f7434e0b4be70cb41db4c779a88eaef6accebcb41f2d42fffe7f32a8e,
    0x281b5c103a27021d0d08362250753cdf70292195a53a48728ceb5844c2d98bab),
   (0x9071b7a8a075d0095b8fb3ae5113785735ab98e2b52faf91d5b89e44aac5b5d4,
    0xebbf91223b0ff4c71905da55342e64655d6ef8c89a4768c3f93a6dc0366b5bc8),
   (0xebb30240dd96c7bc8d0abe49aa4edcbb4afdc51ff9aaf720d3f9e7fbb0f9c6d6,
    0x571350501769fc4ebd0b2141247ff400d4fd4be414edf37757bb90a32ac5c65a),
   (0x8532c58bf3c8015d9d1cbe00eef1f5082f8f3632fbe9f1ed4f9dfb1fa79e8283,
    0x066d77c44c4af943d76b300364aecbd0648c8a8939bd204123f4b56260422dec),
   (0xfe9846d64f7c7708696f840e2d76cb4408b6595c2f81ec6a28a7f2f20cb88cfe,
    0x6ac0b9e9b8244f08bd7095c350c1d0842f64fb01bb7f532dfcd47371b0aeeb79),
   (0x28f17ea6fb6c42092dc264257e29746321fb5bdaea9873c2a7fa9d8f53818e89,
    0x9e161bc77dfe8090afd82bf2266c5c1bc930a8d1547624439e662ef695f26f24),
   (0xec6b7d7f030d4850acae3cb615c21dd25206d63e84d1db8d957370737ba0e984,
    0x67ea0ce274c66199901eaec18a08525715f53bfdb0aacb613d342ebdceeddc3b),
   (0xb403d3691c03b0d3418df327d5860d34bbfcc4519bfbce36bf33b208385fadb9,
    0x186bc78a76c489d89fd57e7dc75412d23bcd1dae8470ce9274754bb8585b13c5),
   (0x31fc79738b8772b3f55cd8178813b3b52d0db5a419d30ba9495c4b9da0219fac,
    0x6df8e7c23a811551a62b827f256ecdb8124ac8a6792ccfecc3b3012722e94463),
   (0xbb2039ec287091bcc9642fc90049e73732e02e577e2862b32216ae9bedcd730c,
    0x4c284ef3968c368b7d37584f97bd4b4dc6ef6127acfe2e6ae2509124e66c8af4),
   (0xf53d68d13f45edfcb9bd415e2831e938350d5380d3432278fc1c0c381fcb7c65,
    0xc82dafe051d8c8b0d44e0974a0e59ec7bf7ed0459f86e96f329fc79752510fd3),
   (0x8d568c7984f0ecdf7640fbc483b5d8c9f86634f6f43291841b309a350ab9c113,
    0x7d24066b09da9944bac54d5bb6580d836047aac74ab724b887ebf93d4b32eca9),
   (0xc0b65ce5a96ff774c456cac3b5f2c4cd359b4ff53ef93a3da0778be4900d1e8d,
    0xa1601e769e8f1b02d2a2f8c5b9fa10b44f1c186985468feeb008730283a6657d),
   (0x4900bba6f5fb103ece8ec96ada13a5c3c85488e05551da6b6b33d988e611ec0f,
    0xe2e3c2aa48ea6ae8986a3a231b223c5d27cec2eadde91ce07981ee652862d1e4),
   (0xc7f5c37c7285f927f76443414d4357ff789647d7a005a5a787e03c346b57f49f,
    0x21b64fa9cf4b7e45573e23049017567121a9c3d4b2b73ec5e9413577525db45a),
   (0xec7096330736fdb2d64b5653e7475da746c23a4613a82687a28062d323636428,
    0x4ac01720ffb406cfe265c0df626a188c9e5963ace5d3d5bb363e32c38c2190a6),
   (0x82e744c75f4649ec52b80771a77d475a3bc091989556960e276a5f9ead92a03f,
    0x718742cdcfeaee5cb85c44af198adc43a4a428f5f0c2ddb0be36059f06d7df73),
   (0x2834b7a7170f1f5b68559ab78c1050ec21c919740b784a9072f6e5d69f828d70,
    0xc919c5039fb148e39e2c8a52118378b064ca8d5001cd10a5478387b966715ed6),
   (0x16b4ada883f72f853bb7ef253efcab0c3e2161687ad61543a0d2824f91c1f813,
    0x47d86be709b16996e17f2dd486927b0288ad38d13063c4a9672c39397d3789b6),
   (0x78d048f3a69d8b54ae0ed63a573ae350d89f7c6cf1f3688930de899afa037697,
    0x629b314e5cd303aa62feea72a25bf42b304b6c6bcb27fae21c16d925e1fbdac3),
   (0x0f746a48749287ada77a82961f05a4da4abdb7d77b1220f836d09ec814359c0e,
    0xc0239b8c7b9ff9e02f569d1b301ef67c4612d1de4f730f81c12c40cc063c5caa),
   (0xf0fc859d3bd195fbdc2d591e4cdac15179ec0f1dc821c11df1f0c1d26e6260aa,
    0xa65b79fafacafd7d3ad61e600f250905f5878c87452897647a35b995bcadc3a3),
   (0x2620f687e8625f6a412460b42e2cef67634208ce10a0cbd4dff7044a41b78800,
    0x77e9f8dc3b8d1216d3376a21e015b58fb279b521d83f9388c7382c8505590b9b),
   (0x227e3aed8d2cb10b918fcb04f9de3e6d0a57e08476d93759cd7b2ed54a1cbf02,
    0x39c528fb04bbf288253e601d3bc38b21794afef90b17094a182cac557745e75f),
   (0x1a929901b09c25f27d6b35be7b2f1c4745131fdebca7f3e2451926720434e0db,
    0x6e74fd693ad29b777dc3355c592a361c4873b01133a57c2e3b7075cbdb86f4fc),
   (0x5fd7968bc2fe34f220b5e3dc5af9571742d73b7d60819f2888b629072b96a9d8,
    0xab2d91b82d0a9aaba61bbd39958132fcc4257023d1eca591b3054e2dc81c8200),
   (0xdfcce8cf32870cc6a503eadafc87fd6f78918b9b4d0737db6810be996b5497e7,
    0xe5cc80e312f61e71ff3e9624436073156403f735f56b0b01845c18f6caf772e6),
   (0x02f7ef3a9ce0fff960f67032b296efca3061f4934d690749f2d01c35c81c14f3,
    0x9a67fa350bc8a0359bf1724bffc3bca6d7c7bba4791fd522a3ad353c02ec5aa8),
   (0x64be5c6aba65d594844ae78bb022e5bebe127fd6b6ffa5a13703855ab63b624d,
    0xcd1a363f99203f632ec386f3ea767fc992e8ed9686586aa27555a8599d5b808f),
   (0xf78585505c4eaa54a8b5be70a61e735e0ff97af944ddb3001e35d86c4e2199d9,
    0x76104b6ae31750a36a726ed285064f5981b503889fef822fcdc2898dddb7889a),
   (0xe4b5566033869572edfd87479a5bb73c80e8759b91232879d96b1dda36c01207,
    0x6ee5a2ed7ae2de63ef8406a06aea82c188031b560beafb583fb3de9e57952a7e),
   (0xe1b3e7ed867f6c9484a2a97f7715f25e25294e992e41f6a7c161ffc2adc6daae,
    0xb7113102d5e6090287fe6ad94ce5d6b739c6ca240b05c76fb73f25dd024bf935),
   (0x85fd085fdc12a080983df07bd7012b0d402a0f4043fcb2775adf0bad174f9b08,
    0xd1676e476985785c0a5dcc41dbff6d95ef4d66a3fbdc4a74b82ba52da0512b74),
   (0xaed8fa764b0fbff821e05233d2f7b0900ec44d826f95e93c343c1bc3ba5a2437,
    0x4b1d616e7e7aba453a0ada5e4fab5382409e0d42ce9c2bc7fb39a99c340c20f0),
   (0x7ba3b2e297233522eeb343bd3ebcfd835a04007735e87f0ca300cbee6d416565,
    0x162171581e4020ff4cf176450f1291ea2285cb9ebffe4c56660627685145051c),
   (0xde748bcf89ec88084721e16b85f30adb1a6134d664b5843569babc5bbd1a15ca,
    0x9b61803c901a4fef32965a1749c9f3a4e243e173939dc5a8dc495c671ab52145),
   (0xaaf4d2bdf200a919706d9842dce16c98140d34bc433df320aba9bd429e549aa7,
    0xa3397652a4d768277786cf993cde2338673ed2e6b66c961fefb82cd20c93338f),
   (0xc408218968b788bf864f0997e6bc4c3dba68b276e2125a4843296052ff93bf57,
    0x67b8cdce7131f0876430c1165fec6c4f47adaa4fd8bcfacef463b5d3d0fa61a0),
   (0x76d2d819c92bce55fa8e092ab1bf9b9eab237a25267986cacf2b8ee14d214d73,
    0x0dc9a5aa2d7b596e86a1fd8fa0804c77402d2fcd45083688b218b1cdfa0dcbcb),
   (0x72065ee4dd91c2d8509fa1fc28a37c7fc9fa7d5b3f8ad3d0d7a25626b57b1b44,
    0x788d4caf806290425f9890a3a2a35a905ab4b37acfd0da6e4517b2525c9651e4),
   (0x64475dfe7600d7171bea0b394e27c9b00d8e74dd1e416a79473682ad3dfdbb70,
    0x6631558055cfc8a40e07bd015a4540dcdea15883cbbf31412df1de1cd4152b91),
   (0x12cd1674a4488a5d7c2b3160d2e2c4b58371bedad793418d6f19c6ee385d70b3,
    0xe06739369d4df910edb0b0a54cbff43d54544cd37ab3a06cfa0a3ddac8b66c89),
   (0x60756966479dedc6dd4bcff8ea7d1d4ce4d4af2e7b097e32e3763518441147cc,
    0x12b3c0ee6d2ecabf1198cec92e86a3616fba4f4e872f5825330adbb4c1dee444),
   (0xa7803bcb71bc1d0f4383dde1e0612e04f872b715ad30815c2249cf34abb8b024,
    0x915cb2fc9f4e7cc4c8cfd45be2d5a91eab0941c7d270e2da4ca4a9f7ac68663a),
   (0xb84ef6a7229a34a750d9a98ee2529871816b87fbe3bc45b45fa5ae82d5141540,
    0x211165c3c5d7a7476ba5a4aa06d66476f0d9dc49a3f1ee72c3acabd498967414),
   (0xfae4b6d8efc3f8c8e64d001dabec3a21f544e82714745251b2b4b393f2f43e0d,
    0xa3d403c64db95a2cb6e23ebb7b9e94cdd5ddac54f07c4a61bd3cb10aa6f93b49),
   (0x34f7286605a122369540141ded79b8957255da2d4155abbf5a8dbb89c8eb7ede,
    0x8eeef1daa46dc29d751d045dc3b1d658bb64b80ff8589eddb3824b13da235a6b),
   (0x3b3b48434be27b9eababba43bf6b35f14b30f6a88dc2e750c358470d6b3aa3c1,
    0x8e47db4017fa55106d8252f016371a00f5f8b070b74ba5f23cffc5511c9f09f0),
   (0xba289ebd6562c48c3e10a8ad6ce02e73433d1e93d7c9279d4d60a7e879ee11f4,
    0x41a000f48ed9f7c4ed87a45136d7dccdca482109c78a51062b3ba4044ada2469),
   (0x022939e2386c5a37049856c850a2bb10a13dfea4212b4c732a8840a9ffa5faf5,
    0x4875c5448816b2785a007da8a8d2bc7d71a54e4e6571f10b600cbdb25d13ede3),
   (0xe6fec19d89ce8717b1a087024670fe026f6c7cbda11caef959bb2d351bf856f8,
    0x055d1c0ebdaaa9d1b17886fc2c562b5e99642fc064710c0d3488a02b5ed7f6fd),
   (0x94c96f02a8f576aca32ba61c2b206f907285d9299b83ac175c209a8d43d53bfe,
    0x683dd1d83e7549cb906c28f59ab7c46f8751366a28c39dd5fe2693c9019666c8),
   (0x31a0cd215ebd2cb61de5b9edc91e6195e31c59a5648d5c9f737e125b2605708f,
    0x2e325ab3381c8dce1a3e958886f1ecdc60318f882cfe20a24191352e617b0f21),
   (0x91ab504a522dce78779f4c6c6ba2e6b6db5565c76d3e7e7c920caf7f757ef9db,
    0x7c8fcf10e57f03379ea9bf75eb59895d96e149800b6aae01db778bb90afbc989),
   (0xd85cabc6bd5b1a01a5afd8c6734740da9fd1c1acc6db29bfc8a2e5b668b028b6,
    0xb3154bfb8703fa3180251d589ad38040ceb707c4bad1b5343cb426b61eaa49c1),
   (0xd62efbec2ca9c1f8bd66ce8b3f6a898cb3f7566ba6568c618ad1feb2b65b76c3,
    0xce1dd20f7395372faf28427f61c9278049cf0140df434f5633048c86b81e0399),
   (0x7c8fdc6175439e2c3db15bafa7fb06143a6a23bc90f449e79deef73c3d492a67,
    0x1715c193b6fea9f036050b946069856b897e08c00768f5ee5ddcf70b7cd6d0e0),
   (0x58602ee7468e6bc9df21bd51b23c005f72d6cb013f0a1b48cbec5eca299299f9,
    0x7f09f54a9a01483eaeb315a6478bad37ba47ca1347c7c8fc9e6695592c91d723),
   (0x27f5b79ed256b050993d793496edf4807c1d85a7b0a67c9c4fa99860750b0ae6,
    0x6989670a8ffd7856d7ce411599e58c4d77b232a62bef64d15275be46a68235ff),
   (0x3957a976b9f1887bf004a8dca942c92d2b37ea52600f25e0c9bc5707d0279c00,
    0xc6e85a839b0d2d8eb59c51d94788ebe62474a791cadf52cccf20f5070b6573fc),
   (0xeaa2376d55380bf772ecca9cb0aa4668c95c707162fa86d518c8ce0ca9bf7362,
    0xb9f2a0adc3ff59922df921b94567e81e452f6c1a07fc817cebe99604b3505d38),
   (0xc1e2c78b6b2734e2480ec550434cb5d613111adcc21d475545c3b1b7e6ff1244,
    0x4476e5c055132e2229dc0f807044bb919b1a5662dd38a9ee65e243a3911aed1a),
   (0x8ab48713389dd0fcf9f965d3ce66b1e559a1f8c58741d67683cd971354f452e6,
    0x2d0207a65e436c5d5d8f8ee71c6abfe50e669004c302b31a7ea8311d4a916051),
   (0x24ce0addaa4c65038bd1b1c0f1452a0b128777aabc94a29df2fd6c7e2f85f8ab,
    0x9ac7eff516b0e0a825c84a24cfe492eaad0a6308e46dd42fe8333ab971bb30ca),
   (0x5154f929ee03045b6b0c0004fa778edee1d139893267cc84825ad7b36c63de32,
    0x798e4a166d24686561354f63b00709a1364b3c241de3febf0754045897467cd4),
   (0xe74e907920fd87bd5ad636dd11085e50ee70459c443e1ce5809af2bc2eba39f9,
    0xe6d7128e0e3712c316da06f4705d78a4838e28121d4344a2c79c5e0db307a677),
   (0xbf91a22334bac20f3fd80663b3cd06c4e8802f30e6b59f90d3035cc9798a217e,
    0xd5a31abbda7fa6842827bdf2a7a1c21f6fcfccbb54c6c52926f32da816269be1),
   (0xd9d5c74be5121b0bd742f26bffb8c89f89171f3f934913492b0903c271bbe2b3,
    0x395ef259669bef43b57f7fcc3027db01823f6baee66e4f9fead4d6726c741fce),
   (0x50c8b8cf34cd879f80e2faab3230b0c0e1cc3e9dcadeb1b9d97ab923415dd9a1,
    0xfe38addd5c11756c67990b256e95ad6d8f9fedce10bf1c90679cde0ecf1be347),
   (0x0a386e7cd5dd9b77a035e09fe6fee2c8ce61b5383c87ea43205059c5e4cd4f44,
    0x08319bb0a82360f6a58e6c9ce3f487c446063bf813bc6ba535e17fc1826cfc91),
   (0x1f1459cb6b61cbac5f0efe8fc487538f42548987fcd56221cfa7beb22504769e,
    0x792c45adfb1d6b3d60d7b749c8a75b0bdf14e8ea721b95dca538ca6e25711209),
   (0xe58b3836b7d8fedbb50ca5725c6571e74c0785e97821dab8b6298c10e4c079d4,
    0xa6cdf22f0fedb55032925c16748115f01a105e77e00cee3d07924dc0d8f90659),
   (0xb929cc6505f020158672deda56d0db081a2ee34c00c1100029bdf8ea98034fa4,
    0xbf3e8655ec697fe36f40553c5bb46801644a627d3342f4fc92b61f03290fb381),
   (0x72d353994b49d3e03153929a1e4d4f188ee58ab9e72ee8e512f29bc773913819,
    0xce057ddd7002c0433ee0a16114e3d156dd2c4a7e80ee53378b8670f23e33ef56),
   (0xc70ef9bfd775d408176737a0736d68517ce1aaad7e81a93c8c1ed967ea214f56,
    0xc8a377b1763e676615b60f3988241eae6eab9685a5124929d28188f29eab06f7),
   (0xc230f0802679cb33822ef8b3b21bf7a9a28942092901d7dac3760300831026cf,
    0x354c9232df3e084d9903130c601f63c1f4a4a4b8106e468cd443bbe5a734f45f),
   (0x6f43094cafb5ebf1f7a4937ec50f56a4c9da303cbb55ac1f27f1f1976cd96bed,
    0xa9464f0e7b9c54620b8a9fba983164b8be3578425a024f5fe199c36356b88972),
   (0x3745273f4c38225db2337381871a0c6aafd3af9b018c88aa02025850a5dc3a42,
    0xa1a3e03e56cbf1b0876d63a441f1d2856a39b8801eb5af325201c415d65e97fe),
   (0xc50c44cca3ec3edaae779a7e179450ebdda2f97067c690aa6c5a4ac7c30139bb,
    0x27c0df4db3220e63cb110d64f37ffe078db72653e2daacf93ae3f0a2d1a7eb2e),
   (0x8aef263e385cbc61e19b28914243262af5afe8726af3ce39a79c27028cf3ecd3,
    0xf8d2dfd9cfc9ad91b58f6f20778fd5f02894a3d91c7d57d1e4b866a7f364b6be),
   (0x28696141de6e2d9bcb3235578a66166c1448d3e905a1b482d423be4bc5369bc8,
    0xc74dae0acc9cc123e1d8ddce9f97917e8c019c552da32d39d2219b9abf0fa8c8),
   (0x2fb9eb2085830181903a9dafe3db428ee15be7662224efd643371fb25646aee7,
    0x16e531eca69b2bdc8233f1a8081fa43da1500302975a77f42fa592136710e9dc),
   (0x66f9a7143f7a3314a669bf2e24bbb35014261d639f495b6c9c1f104fe8e320ac,
    0xa60d4550d69d52edbd5a3cdeb4014ae65b1d87aa770b69ae5c15f4330b0b0ad8),
   (0xf4c4dd1d594c3565e3e25ca43dad82f62abea4835ed4cd811bcd975e46279828,
    0xd44d4c62c3679f1b7f7b9dd4571d7b49557347b8c5460cbdc1bef690fb2a08c0),
   (0x8f1dc9649c3a84551f8f6e91cac68242a43b1f8f328ee92280257387fa7559aa,
    0x6db12e4aeadc2d26099178749c6864b357f3f83b2fb3efa8d2a8db056bed6bcc),
   (0x3139c1a7f97afd1675d460ebbc07f2728aa150df849624511ee04b743ba0a833,
    0x092f18c12dc91b4dd243f333402f59fe28abdbbbae301e7b659c7a26d5c0f979),
   (0x06f94a2996158a819fe34c40de3cf0379fd9fb85b3e363ba3926a0e7d960e3f4,
    0xc2e0c70c7ce0ccb2a64fc29869f6e7ab12bd4d3f14fce943279027e785fb5c29),
   (0xc29c399ef3eee8961e87565c1ce263925fc3d0ce267d13e48dd9e732ee67b0f6,
    0x9fad56401b0f10fcaac119201046cca28c5b14abdea3212ae65562f7f138db3d),
   (0x4cec4c9df52eef05c3f6faaa9791bc7445937183224ecc37a1e58d0132d35617,
    0x531d7e795f52af7b1eb9d147de1292d345fe341823f8e6bc1e5badca5c656108),
   (0x898bfbae93b3e18d00697eab7d9704fa36ec339d076131cefdf30edbe8d9cc81,
    0xc3a80b129659b163a323bab9793d4feed92d54dae966c77529764a09be88db45),
   (0xee9bd0469d3aaf4f14035be48a2c3b84d9b4b1fff1d945e1f1c1d38980a951be,
    0x197b25fe22c731f20aeacc930ba9c4a1f4762227617ad350fdabb4e80273a0f4),
   (0x3d4d3113300581cd96acbf091c3d0f3c310138cd6979e6026cde623e2dd1b24d,
    0x4a8638bed1073344783ad0649cc6305ccec04beb49f31c633088a99b65130267),
   (0x95c0591ad91f921ac7be6d9ce37e0663ed8011c1cfd6d0162a5572e94368bac0,
    0x2024485e6a39854aa46fe38e97d6c6b1947cd272d86b06bb5b2f78b9b68d559d),
   (0x227b79ded368153bf46c0a3ca978bfdbef31f3024a5665842468490b0ff748ae,
    0x04e7832ed4c9f49de9b1706709d623e5c8c15e3caecae8d5e433430ff72f20eb),
   (0x5d34f3952f0105eef88ae8b64c6ce95ebfade0e02c69b08762a8712d2e4911ad,
    0x3f941fc4034dc9b2e479fdbcd279b902faf5d838bb2e0c6495d372b5b7029813),
   (0x7f939bf8353abce49e77f14f3750af20b7b03902e1a1e7fb6aaf76d0259cd401,
    0xa83190f15640e74f3e6c5a90e839c7821f6474757f75c7bf9002084ddc7a62dc),
   (0x062b61a2f9a33a71d7d0a06119644c70b0716a504de7e5e1be49bd7b86e7ed68,
    0x17714f9f0fc313d06129597e9a2235ec8521de36f7290a90ccfc1ffa6d0aee29),
   (0xf29e01eeae64311eb7f1c6422f946bf7bea36379523e7b2bbaba7d1d34a22d5e,
    0xa5f1c5a09d5ce1fe682cced9a4798d1a05b46cd72dff5c1b355440b2a2d476bc),
   (0xec38cd3bbab3ef35d7cb6d5c914298351d8a9dc97fcee051a8a02f58e3ed6184,
    0xd0b7810a5615411ab1b95209c3c810114fdeb22452084e77f3f847c6dbaafe16),
   (0xc2aef5e0ca43e82641565b8cb943aa8ba53550caef793b6532fafad94b816082,
    0xf0113a3ea2f63608ab40437ecc0f0229cb8fa224dcf1c478a67d9b64162b92d1),
   (0x15f534efff7105cd1c254d074e27d5898b89313b7d366dc2d7d87113fa7d53aa,
    0xe13f6dba487ad8103d5e854c91fdb6e1e74b2ef6d1431769c30767dde067a35c),
   (0x89acbca0b169897a0a2714c2df8c95b5b79cb69390142b7d6018bb3e3076b099,
    0xb79a964152a9d912b1b86412b7e372e9cecad7f25d4cbab8a317be36492a67d7),
   (0xe3c0739190ed849c9c962fd9dbb55e207e624fcac1eb417691515499eea8d826,
    0x7b7e8f1287a63633af5011fde8c4ddf55bfdf722edf88831414f2cfaed59cb9a),
   (0x8d6cf87c08380d2d1506eee46fd4222d21d8c04e585fbfd08269c98f702833a1,
    0x56326a0724656400ee09351d57b440175e2a5de93cc5f80db6daf83576cf75fa),
   (0xda24bede383666d563eeed37f6319baf20d5c75d1635a6ba5ef4cfa1ac95487e,
    0x96f8c08af600aab87c986ebad49fc70a58b4890b9c876e091016daf49e1d322e),
   (0xf9d1d1b1e87ea7ae753a029750cc1cf3d0157d41805e245c5617bb934e732f0a,
    0xe3180b78e05bfe76c7c3051e3e3ac78b9b50c05142657e1e03215d6ec7bfd0fc),
   (0x11b7bc1668032048aa43343de476395e814bbbc223678db951a1b03a021efac9,
    0x48cfbe215f97fe9a72a2f6bc039e3956bfa417c1a9f10d6d7ba5d3d32ff323e5),
   (0xb8d9000e4fc2b066edb91afee8e7eb0f24e3a201db8b6793c0608581e628ed0b,
    0xcc4e5aa6787992a4bcc44e288093e63ee83abd0bc3ec6d0934a674a4da13838a),
   (0xce325e294f9b6719d6b61278276ae06a2564c03bb0b783fafe785bdf89c7d5ac,
    0xd83e78756d301b445699024eaeb77b54d477336ec2a4f332f2b3f88765ddb0c3),
   (0x29acc30e9603ae2fccf90bf97e6cc463ebe28c1b2f9b4b765e70537c25c702a2,
    0x9dcbfbf14c99c54345ba2b51f17b77b5f15db92bbad8fa95c471f5d070a137cc),
   (0x3379cbaae562a87b4c0425550ffdd6bfe1203f0d666cc7ea095be407a5dfe61e,
    0xe91441cd5154b3e53b4f5fb31ad4c7a9ad5c7af4ae679aa51a54003a54ca6b2d),
   (0x3095a349d245708c7cf550118703d7302c27b60af5d4e67fc978f8a4e60953c7,
    0xa04f92fcf41aee64321ccb707a895851552b1e37b00bc5e6b72fa5bcef9e3fff),
   (0x07262d738b09321f4dbccec4bb26f48cb0f0ed246ce0b31b9a6e7bc683049f1f,
    0x3e5545f28ce932dd985c5ab0f43bd6de0770560af329065ed2e49d34624c2cbb),
   (0xb6405eca8ee3316c87061cc6ec18dba53e6c250c63ba1f3bae9e55dd3498036a,
    0xf08cd272aa24d713c6020d77ab2f3919af1a32f307420618ab97e73953994fb4),
   (0x7ee682f63148ee45f6e5315da81e5c6e557c2c34641fc509c7a5701088c38a74,
    0x756168e2cd8d351e88fd1a451f360a01f5b2580f9b5a2e8cfc138f3dd59a3ffc),
   (0x1d263c179d6b268f6fa016f3a4f29e943891125ed8593c81256059f5a7b44af2,
    0xdcb2030d175c00e62ecaf7ee96682aa07ab20a611024a28532b1c25b86657902),
   (0x106d132cbdb4cd2597812846e2bc1bf732fec5f0a5f65dbb39ec4e6dc64ab2ce,
    0x6d24630d0f15a805c3540025d84afa98e36703c3dbee713e72dde8465bc1be7e),
   (0x0e79968226650667a8d862ea8da4891af56a4e3a8b6d1750e394f0dea76d640d,
    0x85077bcec2cc86886e506751b4f6a5838f7f0b5fef765d9dc90dcdcbaf079f08),
   (0x521156a82ab0c4e566e5844d5e31ad9aaf144bbd5a464fdca34dbd5717e8ff71,
    0x1d3ffebbfa085d67fe996a34f6d3e4e60b1396bf4b1610c263bdbb834d560816),
   (0x1aba88befc55bc25efbce02db8b9933e46f57661baeabeb21cc2574d2a518a3c,
    0xba5dc5a38e49713440b25f9c744e75f6b85c9d8f4681f676160f6105357b8406),
   (0x5a9949fcb2c473cda968ac1b5d08566dc2d816d960f57e63b898fa701cf8ebd3,
    0xf59b124d95bfbbedc5f1cf0e17d5eaed0c02c50b69d8a402cabcca4433b51fd4),
   (0xb0cead09807c672af2eb2b0f06dde46cf5370e15a4096b1a7d7cbb36ec31c205,
    0xfbefca00b7a4162fa89fb4fb3eb78d79770c23f44e7206664ce3cd931c291e5d),
   (0xbb6664931ec97044e45b2ae420ae1c551a8874bc937d08e969399c3964ebdba8,
    0x346cdd5d09caafe4c28ba7ec788191ceca65ddd6f95f18583e040d0f30d0364d),
   (0x65bc770a5faa3792369803683e844b0be7ee96f29f6d6a35568006bd5590f9a4,
    0xef639b7a8061c7b0424b66b60ac34af3119905f33a9d8c3ae18382ca9b689900),
   (0xea9b4dca333336aaf839a45c6eaa48b8cb4c7ddabffea4f643d6357ea6628a48,
    0x0a5b45f2b052c1b07d1fedca918b6f1139d80f74c24510dcbaa4be70eacc1b06),
   (0xe6342fb4a780ad975d0e24bce149989b91d360557e87994f6b457b895575cc02,
    0xd0c15bad3ce7577f4c63927ff13f3e381ff7e72bdbe745324844a9d27e3f1c01),
   (0x3e209c9b33e8e461178ab46b1c64b49a07fb745f1c8bc95fbfb94c6b87c69516,
    0x651b264ef980937fad41238b91ddc011a5dd777c7efd4494b4b6ecd3a9c22ac0),
   (0xfd6a3d5b1875d80486d6e69694a56dbb04a99a4d051f15db2689776ba1c4882e,
    0x6d462a603b7015dc9f4b7450f05394303b8652cfb404a266962c41bae6e18a94),
   (0x951e27517e6bad9e4195fc8671dee3e7e9be69cee1422cb9fecfce0dba875f7b,
    0x310b93ee3a3d558f941f635f668ff832d2c1d033c5e2f0997e4c66f147344e02),
   (0x8eba2f874f1ae84041903c7c4253c82292530fc8509550bfdc34c95c7e2889d5,
    0x650b0ad8cb988e5c4894cb87fbfbb19612ea93ccc4c5cad17158b9763464b492),
   (0x16f712eaa1b7c6354719a8e7dbdfaf55e4063a4d277d947550019b38dfb56483,
    0x0911057d50506136e2394c3b28945cc964967d54e3000c2181626cfb9b73efd2),
   (0xc39639e7d5c7fb8cdd0fd3e6a52096039437122f21c78f1679cea9d78a734c56,
    0xecbeb28654b4f18e342c331f6f7229ec4b4bc281b2d80a6eb50043f31796c88c),
   (0x72d081af99f8a173dcc9a0ac4eb3557405639a29084b54a40172912a2f8a3951,
    0x29d5536f0918e902f9e8fa6000995f4168ddc5f893011be6a0dbc9b8a1a3f5bb),
   (0xc11aa81e5efd24d5fc27ee586cfd8847fbb0e27601ccece5ecca0198e3c77653,
    0x93bb74457c7e7a27eb9170350e1fb53857177506be3e762cc0f14d8c3afe9077),
   (0xc28f2150b452e6c0c424bcde6f8d72007f9310fed7f2f87de0dbb64f4479d6c1,
    0x441ba66f44b2accee61609177ed340128b407ecec7c64bbe50d63d22d8627727),
   (0xf63d88122877ec30b8c8b00d22e89000a966426112bd44166e2f525b769ccbe9,
    0xb286d437a0129130dde1a86c43e04bedb594e671d98283afe64ce331de9828fd),
   (0x348b0532880b88a6614a8d7408c3f913357fbb60e995c60205be9139e74998ae,
    0xde7f4581e42f6b52698f7fa1219708c14498067fd1e09502de83a77dd281150c),
   (0x5133dc8bef725359dff59792d85eaf75b7e1dcd1978b01c35b1b85fcebc63388,
    0xad99a17b6346a217dc1a9622ebd122ecf6913c4d31a6b52a695b86af00d741a0),
   (0x2753c4c0e98ecad806e88780ec27fccd0f5c1ab547f9e4bf1659d192c23aa2cc,
    0x971b58b6802580baef8adc3b776ef7086b2545c2987f348ee3719cdef258c403),
   (0xb1663573ce4b9d8caefc865012f3e39714b9898a5da6ce17c25a6a47931a9ddb,
    0x9bbe98adaa553beed436e89578455416c2a52a525cf2862b8d1d49a2531b7391),
   (0x64f58bd6bfc856f5e873b2a2956ea0eda0d6db0da39c8c7fc67c9f9feefcff30,
    0x72cdf9e6ea37f69a44f0c61aa0da3693c2db5b54960c0281a088151db42b11e8),
   (0x0764c7be28125d9065c4b98a69d60aede703547c66a12e17e1c618994132f5ef,
    0x82482c1e3fe3146cc65376cc109f0138ed9a80e49f1f3c7d610d2f2432f20605),
   (0xf748784398a2ff03ebeb07e155e66116a839741a336e32da71ec696001f0ad1b,
    0x25cd48c69cfca7265eca1dd71904a0ce748ac4124f3571076dfa7116a9cf00e9),
   (0x3f0dbc0186bceb6b785ba78d2a2a013c910be157bdaffae81bb6663b1a73722f,
    0x7f1228795f3ecada87cf6ef0078474af73f31eca0cc200ed975b6893f761cb6d),
   (0xd4762cd4599876ca75b2b8fe249944dbd27ace741fdab93616cbc6e425460feb,
    0x51d4e7adcc38180e7fc47c89024a7f56191adb878dfde4ead62223f5a2610efe),
   (0xcd36b3d5b4c91b90fcbba79513cfee1907d8645a162afd0cd4cf4192d4a5f4c8,
    0x92183a8eacdb2b6b6a9d9aa8c11ac1b261b380dbee24ca468f1bfd043c58eefe),
   (0x98593452281661a53c48a9d8cd790826c1a1ce567738053d0bee4a91a3d5bd92,
    0xeefdbabebe3204f2031ca5f781bda99ef5d8ae56e5b04a9e1ecd21b0eb05d3e1),
   (0x771f57dd2775ccdab55921d3e8e30ccf484d61fe1c1b9c2ae819d0fb2a12fab9,
    0xbe70c4a7a138da84e8280435daade5bbe66af0836a154f817fb17f3397e725a3),
   (0xc60897c6f828e21f16fbb5f15b323f87b6c8955eabf1d38061f707f608abdd99,
    0x3fac3070633e286cf8339ce295dd352df4b4b40b2f29da1dd50b3a05d079e6bb),
   (0x8210cd2c2d3b135c2cf07fa0d1433cd771f325d075c6469d9c7f1ba0943cd4ab,
    0x09808cabf4acb9ce5bb88b498929b4b847f681ad2c490d042db2aec94214b06b),
   (0x1d4edfffd8fd80f7e4107840fa3aa31e32598491e4af7013c197a65b7f36dd3a,
    0xc4b478456111cd4309d9243510782fa31b7c4c95fa951520d020eb7e5c36e4ef),
   (0xaf8e6e91fab46ce4873e1a50a8ef448cc29121f7f74deef34a71ef89cc00d927,
    0x4bc6c2454bbb3230d8b2ec94c62b1dec85f3593bfa30ea6f7a44d7c09465a253),
   (0x29fd384ed4906f2d13aa9fe7af905990938bed807f1832454a372ab412eea1f5,
    0x625a1fcc9ac8343b7c67c5aba6e0b1cc4644654913692c6b39eb9187ceacd3ec),
   (0xa268c7885d9874a51c44dffed8ea53e94f78456e0b2ed99ff5a3924760813826,
    0xd960a15edbedbb5de5226ba4b074e71b05c55b9756bb79e55c02754c2c7b6c8a),
   (0x0cf8545488d56a86817cd7ecb10f7116b7ea530a45b6ea497b6c72c997e09e3d,
    0x0da8698f46bb006fc977c2cd3d1177463ac9057fdd1662c85d0c126443c10473),
   (0xb39614268fdd8781515e2cfebf89b4d5402bab10c226e6344e6b9ae000fb0d6c,
    0x79cb2f3ec80e80eaeb1980d2f8698916bd2e9f747236655116649cd3ca23a837),
   (0x74bef092fc6f1e5dba3663a3fb003b2a5ba257496536d99f62b9d73f8f9eb3ce,
    0x9ff3eec709eb883655ec9eb896b9128f2afc89cf7d1ab58a72f4a3bf034d2b4a),
   (0x3a988d38d75611f3ef38b8774980b33e573b6c57bee0469ba5eed9b44f29945e,
    0x7347967fba2c162e1c3be7f310f2f75ee2381e7bfd6b3f0baea8d95dfb1dafb1),
   (0x58aedfce6f67ddc85a28c992f1c0bd0969f041e66f1ee88020a125cbfcfebcd6,
    0x1709c9c4eba192c15e69f020d462486019fa8dea0cd7a42921a19d2fe546d43d),
   (0x9347bd291473e6b4e368437b8e561e065f649a6d8ada479ad09b1999a8f26b91,
    0xcf6120fd3bfe014e83f23acfa4c0ad7b3712b2c3c0733270663112ccd9285cd9),
   (0xb32163e7c5dbb5f51fdc11d2eac875efbbcb7e7699090a7e7ff8a8d50795af5d,
    0x74d9ff98543ef8cdf89ac13d0485278756e0ef00c817745661e1d59fe38e7537),
   (0x1085d78307b1c4b008c57a2e7e5b234658a0a82e4ff1e4aaac72b312fda0fe27,
    0xd233bc5b10e9cc17fdc7697b540c7d95eb215a19a1a0e20e1abfa126efd568c7),
   (0x4e5c734c7dde011d83eac2b7347b373594f92d7091b9ca34cb9c6f39bdf5a8d2,
    0xf134379e16d822f6522170ccf2ddd55c84b9e6c64fc927ac4cf8dfb2a17701f2),
   (0x695d83bd990a1117b3d0ce06cc888027d12a054c2677fd82f0d4fbfc93575523,
    0xe7991a5e35a3752e9b70ce62992e268a877744cdd435f5f130869c9a2074b338),
   (0xa6213743568e3b3158b9184301f3690847554c68457cb40fc9a4b8cfd8d4a118,
    0xc301a07737aeda0f929c68913c5f51c80394f53bff1c3e83b2e40ca97eba9e15),
   (0xd444bfa2362a96df213d070e33fa841f51334e4e76866b8139e8af3bb3398be2,
    0xdfaddcbc56b9146de9f68118dc5829e74b0c28d7711907b121f9161cb92b69a9),
   (0x142709d62e28fcccd0af97fad0f8465b971e82201dc51070faa0372aa43e9248,
    0x4be1c1e73ba10906d5d1853db6a4106e0a7bf9800d373d6dee2d46d62ef2a461)]

/-- The 32 bytes of a number, the most significant first. -/
def bigEndian (n : Nat) : Vector UInt8 32 :=
  Vector.ofFn fun i => (n >>> (8 * (31 - i.val))).toUInt8

/-- The digests as bytes, by the length of the message. -/
def answers : List (Vector UInt8 64) :=
  table.map fun halves => bigEndian halves.1 ++ bigEndian halves.2

/-- The key of all known answers. -/
def key : Vector UInt8 64 := Vector.ofFn fun i => i.val.toUInt8

/-- The message of length `n`, with zeros behind it. -/
def message (n : Nat) : Vector UInt8 count :=
  Vector.ofFn fun i => if i.val < n then i.val.toUInt8 else 0

end Blake2b.KnownAnswer
