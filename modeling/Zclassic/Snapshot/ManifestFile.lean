import Zclassic.Snapshot.Serialize

/-!
# The Manifest File

`CSnapshotStore::Initialize(nHeight)` makes the snapshot directory of a height and fills the
store's manifest, the one `SaveChunk`, `VerifyChunk`, `HasChunk`, `LoadChunk` and
`ExtractSnapshot` check against. It first tries `LoadManifest`, which reads `manifest.dat` and
keeps what it read if that passes `IsValid`; only when this fails does it take
`GetHardcodedManifest()` and write it out with `SaveManifest`.

The compiled-in manifest is therefore the trust anchor only on a first start or after a bad
file. A valid `manifest.dat`, left by an earlier release or put there by hand, takes its place
(`initStore_loads_valid_file`), and `initStore_manifest` says which of the two a successful
start leaves in the store.

`SaveManifest` writes through a `CAutoFile`. An `fwrite` that comes up short throws, and the
`catch` returns `false`; but `fwrite` buffers, and the `fclose` in the destructor, which
flushes the rest, has its result ignored. So a manifest whose bytes all reach the disk is the
one the next start loads, and one whose tail is lost at the close still returns `true`, while
the file it leaves loads as nothing (`snapshot_wire_round_trip`, `saveManifest_lost_tail`): no
strict prefix of a manifest's bytes reads as a manifest.

The directory is a `ManifestState`: the store's manifest and the bytes of `manifest.dat`.
`LoadManifest` reads straight into the store's manifest, so a read that fails part way leaves
some fields changed; its only caller then overwrites them, and `loadManifest` gives only the
manifest of a successful load. `InitSnapshotStore` makes a fresh store each time, so only the
file carries over from one start to the next, and `CleanupChunks` may take it away. Since
`SaveManifest` writes nothing but the compiled-in manifest, a node that starts without the
file only ever has a prefix of those bytes there, and every start that succeeds has the
compiled-in manifest (`initSnapshotStore_restarts`).

## Main definitions

* `getHardcodedManifest`: The compiled-in manifest.
* `ManifestState`, `AutoFileWrite`: The store's manifest and `manifest.dat`, and how a
  `CAutoFile` write goes.
* `saveManifest`, `loadManifest`, `initStore`, `initSnapshotStore`: The manifest methods.
* `ManifestCall`, `ManifestCall.starts`: Runs of starts and clean-ups.

## Theorems

* `getHardcodedManifest_isValid`: The compiled-in manifest passes `IsValid`.
* `loadManifest_take`: A prefix of a manifest's bytes loads as it or not at all.
* `snapshot_wire_round_trip`: The wire format reads back, and so does a manifest file written
  whole.
* `saveManifest_lost_tail`: A true `SaveManifest` whose file does not load.
* `initStore_manifest`: The manifest a successful `Initialize` leaves in the store.
* `initSnapshotStore_restarts`: Starts from the compiled-in manifest's bytes keep it.
-/

namespace Zclassic

namespace Snapshot

/-- `uint256S` of a string literal, on the bytes of its characters. -/
def uint256Hex (s : String) : BitVec 256 := Pow.uint256S s.toUTF8.toList

/-- `CSnapshotChunkInfo(nChunkNumberIn, uint256S(hex), nSizeIn)`. -/
def chunkInfo (nChunkNumber : UInt32) (hex : String) (nSize : UInt64) : ChunkInfo :=
  ⟨nChunkNumber, uint256Hex hex, nSize⟩

/-- `GetHardcodedManifest()`: the chainstate at height 2879438, in 171 chunks. -/
def getHardcodedManifest : Manifest where
  nBlockHeight := 2879438
  nTimestamp := 1760886990
  nTotalSize := 8953014312
  vChunks :=
    [chunkInfo 0 "e38c36e582ceefdda0a62c0b5d900ae70d656fb08f5f9999ef580dfbd208a23c" 52428800,
     chunkInfo 1 "d5407180ebec16c81a8e4bf74c9cf7fbdca20b72f45c027667b16f0c83432627" 52428800,
     chunkInfo 2 "b2a3cf86143db02d419eeaf77fb71bb3c2eaa93944511768afcb3465e486aca4" 52428800,
     chunkInfo 3 "8e2c6e2fd97573d0954b01ab5824959175b65faa9823cd61af264691aeb5f569" 52428800,
     chunkInfo 4 "bac389ff47bb8085416559a6732b840121622627263b8c4ddc35889c26eeeb99" 52428800,
     chunkInfo 5 "cfbbdda3ee7df41091f6386a415d0a0b7cf673aef77112440039f8116146f38f" 52428800,
     chunkInfo 6 "2508a27d2cbcb2f1140910408d0cc2858c2b027a73c5d43d8b43074f9cd6d044" 52428800,
     chunkInfo 7 "3b1d1a41aadfb4ba30f4fc206ce6da20531f593276f9f988798ccaf42b6bcd45" 52428800,
     chunkInfo 8 "5dd3589b6f31bcf8151159e606c6dd9eec8e72e83b75e10eeed46081d5ba6476" 52428800,
     chunkInfo 9 "58fe81496a9f0b860ecc9286f9cf6419f9289325a8781fa920a806e193ca742a" 52428800,
     chunkInfo 10 "727c9b44225d35b57bbfdbcaa4becc3a671ff63ac3485d147186898c157302b3" 52428800,
     chunkInfo 11 "b65c4ffbee3e1f1ab2edb91aa3d37800ccf86442dc0a33fe5d0c06e84181c5b9" 52428800,
     chunkInfo 12 "3b4b2a5514dca25af92b058551bd2d7d01d9d8a73c9514fe23068c29414e76f4" 52428800,
     chunkInfo 13 "dc2c5aa1852f6b19e93fb7bdcdbcb242f5b66ec6cd7de72b554067ec06cea524" 52428800,
     chunkInfo 14 "0f7496a4d3ab49e8c2ec06d4c383eec0b3fd14f99471d97acf21a8697b5e0f13" 52428800,
     chunkInfo 15 "55f519125cd225dcacd742097f364461b4e676326fbb86055886888e38bf46c3" 52428800,
     chunkInfo 16 "9f72efa68284ff81bea4b36b452169baf65340c7668c7f510abe4d47088acd30" 52428800,
     chunkInfo 17 "0e228ae7407b0bd7c39a19b41abac3cd5fe7c9eebb9b8d72333bbb06df834fb2" 52428800,
     chunkInfo 18 "d6047cbc29b11620f017ec89d8cc86a0d0258db0c55e90b50599e754b11fb91f" 52428800,
     chunkInfo 19 "68d6217a6a89381c06128e748500708ab226ea49b26ade8a803f1c009ace7068" 52428800,
     chunkInfo 20 "ed5bfc006acb01007858cde7d49eefec0c881d90cf879b2d98a13132dc9481b3" 52428800,
     chunkInfo 21 "2cea773273b37b21b1b5554b8a0e6f47097da7d0f144eda79a4f2902ed222d91" 52428800,
     chunkInfo 22 "5c6c09c53bf97aa6c54612288fe3f63183c8cdcbfea7865bee2ae34d7b1bc0cc" 52428800,
     chunkInfo 23 "a1b3c73ca152502fb05c9f429afd294d3c5746b4d063bbcbc8ca883b888f0f35" 52428800,
     chunkInfo 24 "2662599e9d9795508668252d5898d920e540ea45b1e735aba825988d9a061270" 52428800,
     chunkInfo 25 "d8d85f699408ca4f0e7ae31b91e6d37508468def47519b31c77785b75e7118e3" 52428800,
     chunkInfo 26 "d98717fb1aac8fa12b8db443011860e94d1770e238d26b80f5d98220c923326c" 52428800,
     chunkInfo 27 "256b50e8bcf82eaae50acdba162fdfebd823da0b86812dd99602c5f961b47144" 52428800,
     chunkInfo 28 "c630d32e583d2f6aa38b89235d98dbff171818fef973604470fef8b04f61f348" 52428800,
     chunkInfo 29 "e98d32acc3acc34d85b846105a914a14af95892f5d7c98010030a385aa953747" 52428800,
     chunkInfo 30 "7ea2dc3340a7649404a4ace788558e13dd0591cb958d8a03b1b2d44a412e0cb4" 52428800,
     chunkInfo 31 "3a452b597869bed16f967ec038d909d08dd05a88e19b9d4a5a92e1571b774cf2" 52428800,
     chunkInfo 32 "78fd824527c3296b50378cc456198e0e30421b583876c49a61b955df2b0b8464" 52428800,
     chunkInfo 33 "2a0efcc5ab09b2193cba2d167938ff66f23987d39d833f4b619dd4908a4962dd" 52428800,
     chunkInfo 34 "aee149793d80d326b3122555ac9d37b68a8744bffe13fd8bd93983e5b59cdab6" 52428800,
     chunkInfo 35 "4d228c9d298b60cfbe5b3d2de6a859b8209da933e0aa723b164ed1777bca95e9" 52428800,
     chunkInfo 36 "8f75532327d628fdfe4fd91804a95d3e9b4f59b19051b878880417ddcfc358f5" 52428800,
     chunkInfo 37 "a67206b51135837aa3b2c5655b2ddda2db0c6f55df5c14bc7ae0d8df38c0b2cc" 52428800,
     chunkInfo 38 "9ec6dad4f403a391d36b64238155c6f6bcfb3a1ff06dd9d90de6465bfafc9ae0" 52428800,
     chunkInfo 39 "b2effdb7eb30ad9cc370aae07d07f31ac17dff411b5c2948cadcd86dff8a668d" 52428800,
     chunkInfo 40 "6a788caffcb154750e6168ee6d84c483dc0a17cd5f75771bc1636645e1b7b651" 52428800,
     chunkInfo 41 "986da50c38ec19700bbb12279108087f0488836ccfc035b1b2b496c6b7f4e199" 52428800,
     chunkInfo 42 "263d101cd2aa377d16ab6b1010389d082d26bc5c0e30e5254cc51554ecbddff6" 52428800,
     chunkInfo 43 "2401d94e829daaa0b3fae36dcb3349b7929825e867ad79b4758fa3f9f5e220cd" 52428800,
     chunkInfo 44 "9b3903c6faf8d9620e551630bd6503d6ed82662b9c38e816142da03c500ca3d8" 52428800,
     chunkInfo 45 "8b1cad0649ee5f5dc02cbfe29bce466118a4e5ef83e0fb3d00776fc198e065c6" 52428800,
     chunkInfo 46 "c0abbfe48d05de579503fdc70b694952e29b43e6a6caff4ed89f67546e2e5d53" 52428800,
     chunkInfo 47 "55325c4b139ce800ea67f0ad0e32276d49df1f7bd5b1e12a7eceb52e3a8bd647" 52428800,
     chunkInfo 48 "84e0760c3d8157e8d6fcdb38ed9100652c61448e529ebd5c394165ec0afaaaea" 52428800,
     chunkInfo 49 "387ee373d5b4bdcb4ad37d611491721322ef5ebfed4b79004e439e53aeb3b798" 52428800,
     chunkInfo 50 "15627454c84d954f5505b03855402dfa828e6c4b466e436b978f7daf20c02d89" 52428800,
     chunkInfo 51 "88124b1891f4773103aabf7dd185274dd27024d9152a5a8d9d17c1c3f2e26050" 52428800,
     chunkInfo 52 "3245002534ae0bc65d6d81db199c4875bf9fbfe6619540747d92dd85947244e6" 52428800,
     chunkInfo 53 "4ac0b23d1cae85034e60da6e011c2e888bf94f1233fe3b7c72d7aabca831a20c" 52428800,
     chunkInfo 54 "b1173c397b77e0101703a02a1da9bcac7c22a0c2821fab4f5b87960b79361909" 52428800,
     chunkInfo 55 "40ecde451471d44b13f8530df30184c4ea80130c6971e48dd95e49d90ca80452" 52428800,
     chunkInfo 56 "a9c7775de64da2ad9d732563d210940210f07d7ad937b1ed6068552d981783c6" 52428800,
     chunkInfo 57 "0dffbb1d004f09057b75443a4f37f84105a241ee2b11ad79c6d47d8ccfccc277" 52428800,
     chunkInfo 58 "ca4eec52ed96c2fd63c4819154c7ce8f0518603238cfdefd8242d159ede648e5" 52428800,
     chunkInfo 59 "c59fc48dfd40eb144ba98452ca260305934df689788726d8f9a1fe9c7907bc4b" 52428800,
     chunkInfo 60 "230cbb840409be367af840fb737bc855bd80c8841f542eae0f915b6773711b4e" 52428800,
     chunkInfo 61 "4a8032f1c0a5c28020dc32bb8b51ed2adad896d48a99f2f7aad28254477c98ac" 52428800,
     chunkInfo 62 "d406a7fb2c6bf9adf400c647b321a60c3e4f7f8d49673f0d1d9136947211e817" 52428800,
     chunkInfo 63 "554f409d010c727593ea0e29e6fcb521bc8a2572f6603bbc11b47c8f316988a9" 52428800,
     chunkInfo 64 "23ea989ed943382845313e158f4ec7ab826817598af62788fab9eb6c0515820a" 52428800,
     chunkInfo 65 "4628797d30551f27a164d489781b77b3ae221ddeadcc71da0fa55071959cf6ce" 52428800,
     chunkInfo 66 "6a0bf0aaf18bf9fd9fa117186be6e2880a210cc7484143c39e30b4544c5853f9" 52428800,
     chunkInfo 67 "0a02fbf7f3891513c01df52468afcfa94d72e990ce7106776bc3889a6d3a7a39" 52428800,
     chunkInfo 68 "c1c9d4bfd91b67c476ccfb6bc26911d4174d21809b75927b7bf6869828e8053a" 52428800,
     chunkInfo 69 "e73562096fb52cc3cffa5bc5a75b1a548d9b3f2f81238c7c5fa4f535f12d2911" 52428800,
     chunkInfo 70 "1cf30fc0d4a8499f287b19826e65e6fb333c06e76c53922f1f17cf96f961cbdf" 52428800,
     chunkInfo 71 "31d9bbb42fb71e9a7f7ddc2d2c8e846e72a369914e02dbfbd57fb57516467051" 52428800,
     chunkInfo 72 "e95ad01e6bf224d1fefb3c600eef235169c21bbe7f792416e90d50342d5f131c" 52428800,
     chunkInfo 73 "3c4d6f58fe267d0b489d9e44ecc0d2cbbb1155edfd5dd300c9ab2db34591315c" 52428800,
     chunkInfo 74 "6ef9ee05c05651ad676b29d76319b780db1b5a4623d2ec2173c68d2d078d5427" 52428800,
     chunkInfo 75 "ab2c84b8dd4ebe3c346e41d26cb90d9e3133625a82e2930928b09e4e3fdabab0" 52428800,
     chunkInfo 76 "4e7ea0a43158648e421fb9d3925d78d403f63963225739f995aec36085e1ff8b" 52428800,
     chunkInfo 77 "893416a8fb987d748cfe2fa3775beb7ce2e43ca04470f8687397d9e581f887ad" 52428800,
     chunkInfo 78 "2fc52590251c07e990df62bc7a35e587c9acf442d9c4cecc10eeaeee9068659b" 52428800,
     chunkInfo 79 "a9c7376205904591b77955a11c235e9339188750c4d0e59b5695616d1d2e589a" 52428800,
     chunkInfo 80 "a30b72f480dbffd2e5222f402e5072f6b16c71bcc5b7b0175d412f4e4b7e7ef3" 52428800,
     chunkInfo 81 "0e5cd004def0cc06dbb8299a2e9db9feab2849bd887639e0dd90fa9e4a2bd31f" 52428800,
     chunkInfo 82 "550403c8860f35af058471d47c8d16bc22e3ea9be4f2323822251baea18b1edd" 52428800,
     chunkInfo 83 "71def6e4d8a51257398dec201910c48bef57b08ec85f4b78097f98df98a4090b" 52428800,
     chunkInfo 84 "8f9f98c39d319a0a15f7284e95951c3bb3248ad77fe5b312beb08fdfbba2e105" 52428800,
     chunkInfo 85 "e8b8c15580542b55eca3ece1e327a32fdf1a282d99f87fe52fca8099ba87ba52" 52428800,
     chunkInfo 86 "44cc3d005f20552c7e4605fb5245ce7d3917af6debee94c1fd41f8b2b7f22d69" 52428800,
     chunkInfo 87 "7a87d5c39fce58749bd7504b0318edb0dfbde5ccb507145dfcd188b7bd1a8021" 52428800,
     chunkInfo 88 "afc0a40b277ea2549f500a8c7491932e13f211a02262d8be1c262890debc53f6" 52428800,
     chunkInfo 89 "d322a021f54833ff529ebcb708c668a2b69495c4cff3ebec1e8e3359294f53e8" 52428800,
     chunkInfo 90 "1f7733351c0c68cd1bc3f47bf34897fc209ab1f2fafde3b6a153e7d61541aaf7" 52428800,
     chunkInfo 91 "74cdc6dd292386fdd4ac6fc699b6d72d7bfd0643ff25839e2db71218e4cc31f8" 52428800,
     chunkInfo 92 "9e0cb226a128ef1fc8d9b36eb8ace88175158cc29dc8c17b6a6b4c5e061112fa" 52428800,
     chunkInfo 93 "0b256226bd421b52c357a39eb5e754a7bd9b8c4f37f9582a981a6eba2fe36b08" 52428800,
     chunkInfo 94 "2af7ab13e097fe09a3bf5c4b1b873d4699819b4c9164f286c92151796d739433" 52428800,
     chunkInfo 95 "7d7e3f30ea6ded736ee370d9d2679a6396086e1e162ceacc6637b70557e16563" 52428800,
     chunkInfo 96 "eccd6e66a23c39dacd67bfa466a3f3d4b7d0871e147ec38195a76b5068b32306" 52428800,
     chunkInfo 97 "da3f8590607480af70c667efa0c3d5983b68338921bb3aeceb00e06c016f95d3" 52428800,
     chunkInfo 98 "8e0b21a52a5237974291988c366bc4d0ade40003ce322f877b6399d128e4bf63" 52428800,
     chunkInfo 99 "dab3d8d2d4421be9babe1668ac9ebfdfd9fba3465e2222ad743e255c3bdca240" 52428800,
     chunkInfo 100 "c04a79584ba6d7985f8f409909d465f73b3dc326735a0d593f400afcdbdc1c41" 52428800,
     chunkInfo 101 "8b0d76852bc194bfaf5ff64d318943274d79d392094e936cbbeba05f81f76332" 52428800,
     chunkInfo 102 "56155b3138e0c5860f456dfaefd386e6134bb26e20c5e05416a71dd1c6ae6d0e" 52428800,
     chunkInfo 103 "5e6e0c6e00bf0801d9ff2cee0aedd0936f3bc71bc0463127427e75646d090f91" 52428800,
     chunkInfo 104 "a333f7ca131bde238a1b7ca3c761f310c2cf3dcfb2eee824dbf9bf964dec80d8" 52428800,
     chunkInfo 105 "a318357d14fd22194806ae605030cc8aa917e1c98d3acdaad78ba089c4dbb390" 52428800,
     chunkInfo 106 "047db461a515e7cc14be2632e374a7923a058b8543b3469cf113f5048e074757" 52428800,
     chunkInfo 107 "80f8110f214696a1c11f7d8d40172719689254e402201496e1c67508470033fd" 52428800,
     chunkInfo 108 "b4da1aea1c3b8c6d440cbbfa0483b1af7385d4d8514a6832e11095ea4dc35d2c" 52428800,
     chunkInfo 109 "383c86b3e43f256e425fa53bf5d1aef45600c8a567cc14c224e50e773f2f0cea" 52428800,
     chunkInfo 110 "5d880e24d51a3154df3138d2d46240d684c33e481c9418b778e75d56dd293e03" 52428800,
     chunkInfo 111 "41378fa23a82dd66032343056e63b591d8897b2114024d922fba450c3f8b6623" 52428800,
     chunkInfo 112 "47565fe962cad279f5aa8262f883dd21a551d9aa0a9ecada110bd8e1f08ab9e6" 52428800,
     chunkInfo 113 "366a079cb3e902e867706f2d0170264a1796762bfc348c2d098e62c6b386ffb4" 52428800,
     chunkInfo 114 "abc74b8fe1fd8377a0469146661f1cbd88759813fa390818d0afdc1782421914" 52428800,
     chunkInfo 115 "f2bffa87dc9776f4639eb6002110366bd706e8ac57035abeb20f122c786a3470" 52428800,
     chunkInfo 116 "7a66fcb47d5d9d9bdc6070b48d6d0b0bf69a218b650eb110303bde43f28c899d" 52428800,
     chunkInfo 117 "2ad75290f043fad0d58edb10e658d44a719b206a7eb1dbee00ddafc8fa2c53e9" 52428800,
     chunkInfo 118 "f7509d851f7e7323351b9fdc2687bd0f29234f6085ecd0fc2ae4bc51051a2208" 52428800,
     chunkInfo 119 "4b1eb35ad7bc3e06be99cfede0e4c16b308ccae451223651abf9afc7c642df81" 52428800,
     chunkInfo 120 "11321c2f2360707a793419524fc4ccf1d00fab0d5dbf6a0e15f60aaa2977276e" 52428800,
     chunkInfo 121 "1d2674aaba4db787a41146e797d23401fd057df6cbda7c2b45035d0ce7e034d6" 52428800,
     chunkInfo 122 "5794c28139a9222ce497a97475033e3234ebda6d8284859851e08d4e88ef77f0" 52428800,
     chunkInfo 123 "9971a2ae5884ea520870a0ab7c807c9a950ccb650173062e199a1eb718cd45bb" 52428800,
     chunkInfo 124 "79682e895f08a4192358c84c25c2659ca17a39dd0131673f6bc42b2d7a0ef255" 52428800,
     chunkInfo 125 "36476d9106de3ad7f70e97c2ca6ed7ce969febf5f87602c7c3bacc34aea6652d" 52428800,
     chunkInfo 126 "987e5bc27e8eb4523a6761f404c5326306392fbbafce1bfbde5cc0e5071c9267" 52428800,
     chunkInfo 127 "09d178c896e8859c03f79e7cf316686976892849087fe7a0870461b80182569c" 52428800,
     chunkInfo 128 "1e6b8a636fd2fe1a7343dc4e4326a5d38449639c21e6767cb352fbdcb7ceae12" 52428800,
     chunkInfo 129 "351508b2af4cb6bc79f768303ac728611bb7a0ce89227c92fd5c18b62085e9be" 52428800,
     chunkInfo 130 "b059428265de73c2577031389d49244320b091920acc237b7570355023eb1268" 52428800,
     chunkInfo 131 "46de5a1f5c02f7027af3344c54b90f480a9f0b94191818f9461ca169ffd857f6" 52428800,
     chunkInfo 132 "68f67cbf9f58984d4f0f9fbf8b15edabd22600726ac576bbebe512cf75008921" 52428800,
     chunkInfo 133 "6e8e0be5933f05d800ed13ffed9275b5fb312d6f7a481e72333835d7a9702b55" 52428800,
     chunkInfo 134 "c1e953945b2df9b4261d3e3b81db62a2412c48e98890bd53ff4173de3e3a17aa" 52428800,
     chunkInfo 135 "79afc3ade1f9b0c94cd9512d152cc41d64812c826cc5ce5b64b929c07713fe50" 52428800,
     chunkInfo 136 "1719378f17284dd461e7812d230797cfdebbb9d7ee6e1c0d2390a37401a0c582" 52428800,
     chunkInfo 137 "af81c62616164dfd190d094223ae0b2975076910d9fce52406ba3ddcc9b5cc3b" 52428800,
     chunkInfo 138 "02beabed5eb2d12c9567509a62a7e1e482794f845f8aff8966bb34c7ab05d9f4" 52428800,
     chunkInfo 139 "6f00a58676c0f1c3bab07b3039461a165012f6079245594a7e9e9156b6f2106e" 52428800,
     chunkInfo 140 "decf73bdb5e678fc64a4997bbb6abf8a918c2dbceb01333b63dd98659bd6eabd" 52428800,
     chunkInfo 141 "83e8e87758e9c4601b4ef6eef50e56aebb1afd0fb6d21db55692b9c674b42d52" 52428800,
     chunkInfo 142 "b9a507bca753b08ba32e8cc9df36978f6e597674f1416983c6a84e33e0b96b64" 52428800,
     chunkInfo 143 "2602937a1ff0412c37b727f19618db3280015c8effa7c1f65ec69095bfdfd4e6" 52428800,
     chunkInfo 144 "c2764e2c68524a6ae369f8e924baff134f1c888e187eba797dbe3de7dd46396b" 52428800,
     chunkInfo 145 "6aa680fe27da34f3e54ae1b2b7df455cb497f0b5974a261add9866fb8c26d94e" 52428800,
     chunkInfo 146 "55c6425cb9ebefc1f5a1221c160cb1b7ef950a1eed506645c96e76d926d88330" 52428800,
     chunkInfo 147 "c9c605ac0bb194a5276a2ac14892d57b52abfe9258285c7a8a27ebb56848d5f9" 52428800,
     chunkInfo 148 "e91072a472a257e3f387a3109c6e1521bbc73e26030985f8117313e3fac10fda" 52428800,
     chunkInfo 149 "5bb0242392e537c1b37a12e886806102c0254639ce6ec790a400f4e448314788" 52428800,
     chunkInfo 150 "031bf898502ee1a088233326a93ad878b09d51779534cd9600ee3e2548cf5aa5" 52428800,
     chunkInfo 151 "4d696947ac80f32ab8577cb1a00dcaba982148c0103eb72026b5fab6ddd77eca" 52428800,
     chunkInfo 152 "8276ab7f7193b7947160eb0946fc007bd3dc4ce32c92d9d2d7b4ee1a86a91b7f" 52428800,
     chunkInfo 153 "93f5778e30040d9df60b0fac08368b6ed1d7dd2e13b79b086722a8925a98e5d2" 52428800,
     chunkInfo 154 "3aae45aef62e87e1e2c09e2aab4923043771fe6e20a78c4f6ab5960c6dbe5542" 52428800,
     chunkInfo 155 "1f86e231039597aade4cc8136bd8a0fe44768b4d4b9e0d5335470ae3afdf7de5" 52428800,
     chunkInfo 156 "652e1520c9594caeadc3edf22ba91cd6e54f173bea593156d487ec02c1040016" 52428800,
     chunkInfo 157 "8969d9073dba3ff20af00eff6216bcbad60879ea4ff543f7672abd8575ec380a" 52428800,
     chunkInfo 158 "6c2aacb206f9359f3bbc5093ea6c3c69116a33eba8b7163b75b22665acb046a0" 52428800,
     chunkInfo 159 "b5999dbb40fbbda0a2b6be0d95069c4e937ed882b7184fb1d667ee9373265c80" 52428800,
     chunkInfo 160 "97ff53a2c18cd994f8021b7568af9afb6458cf7cafc1e3b82cb810bf641fe2af" 52428800,
     chunkInfo 161 "7a0d8412aea9a9e7d0e7bccc8a214cbb6ad66ffe75e7daa864418d82c92133d4" 52428800,
     chunkInfo 162 "65ba7f3449cda0f0a9af31e564db91ac12c384ed6df6258576736b6bd213dada" 52428800,
     chunkInfo 163 "86b92a4b560a6d46ab52bb672040b575b03c5b4d002281da54dd2127d6fb403f" 52428800,
     chunkInfo 164 "19434df675c1bee008ea9450e643c5d84ba48c0b3271f377c979aa75329b42a4" 52428800,
     chunkInfo 165 "09da3a2a3dba988c4d88f1dd59250fa9f6fade408d436e58f06846c1b813da4c" 52428800,
     chunkInfo 166 "4fe41d008b49da7c23ca714081b0cbc121f6801b644ff59b7f50ccb70d762810" 52428800,
     chunkInfo 167 "fcc1252a2b3e25eb29c5750acb5b5b8c0e608bc0b3adf4aa3806fb32c3a1bde7" 52428800,
     chunkInfo 168 "f0261c4e5ce5c6169bf427c5a7cbe67e2209b3dd242c1e81283b41e512800896" 52428800,
     chunkInfo 169 "313b0350d7f46d3e5629515cb205ca19d0e5eef37d344e34c90616940b277170" 52428800,
     chunkInfo 170 "916f76fdc915398167419bec551a8697face9a1200e19cfd3e4fcd45b583f32f" 40118312]

theorem getHardcodedManifest_isValid : getHardcodedManifest.isValid = true := by
  decide

/-! ### Saving and loading -/

/-- The store's manifest and the file `manifest.dat` in its snapshot directory. -/
structure ManifestState where
  manifest : Manifest
  /-- The bytes of `manifest.dat`, `none` when it does not exist. -/
  manifestFile : Option (List UInt8)

/-- What the file system does when a `CAutoFile` writes a file whole: whether `fopen` opens it,
    which creates the file or empties the one there; whether an `fwrite` returns short, which
    makes `CAutoFile::write` throw; and how many of the bytes written reach the file, those
    that the `fclose` of the destructor flushes included. `fwrite` buffers, so bytes can be
    lost at that flush after every `fwrite` returned in full, and nothing reads the result of
    `fclose`. -/
structure AutoFileWrite where
  opens : Bool
  writeThrows : Bool
  nWritten : Nat

/-- `CSnapshotStore::SaveManifest(manifestIn)`, when writing `manifest.dat` goes as `w` says: a
    write that throws is caught and returns `false` before the store takes `manifestIn`. -/
def saveManifest (w : AutoFileWrite) (st : ManifestState) (manifestIn : Manifest) :
    Bool × ManifestState :=
  if !w.opens then (false, st) else
  let st := { st with manifestFile := some (manifestIn.serialize.take w.nWritten) }
  if w.writeThrows then (false, st)
  else (true, { st with manifest := manifestIn })

/-- `CSnapshotStore::LoadManifest()`: the manifest it leaves in the store when it returns
    `true`, and `none` when it returns `false`. The file may not open (`opens`), a read past
    its end throws, and bytes after the manifest are not read. -/
def loadManifest (opens : Bool) (manifestFile : Option (List UInt8)) : Option Manifest :=
  match manifestFile with
  | none => none
  | some bytes =>
    if !opens then none else
    match Manifest.unserialize bytes with
    | none => none
    | some (m, _) => if m.isValid then some m else none

/-- `CSnapshotStore::Initialize(nHeight)`, on the snapshot directory of `nHeight`: whether it
    exists or `create_directories` makes it (`dirReady`), whether `manifest.dat` opens for
    reading, and how writing it goes. The result of `SaveManifest` is not checked. -/
def initStore (dirReady opens : Bool) (w : AutoFileWrite) (st : ManifestState) :
    Bool × ManifestState :=
  if !dirReady then (false, st) else
  match loadManifest opens st.manifestFile with
  | some m => (true, { st with manifest := m })
  | none =>
    let st := { st with manifest := getHardcodedManifest }
    if !getHardcodedManifest.isValid then (false, st)
    else (true, (saveManifest w st getHardcodedManifest).2)

/-- A valid manifest in the file, followed by anything, is the one loaded. -/
theorem loadManifest_serialize {m : Manifest} (hv : m.isValid = true)
    (hm : m.vChunks.length < 2 ^ 64) (rest : List UInt8) :
    loadManifest true (some (m.serialize ++ rest)) = some m := by
  simp [loadManifest, Manifest.unserialize_serialize hm, hv]

/-- A valid manifest numbers its chunks by `uint32_t`, so it has fewer than `2^64` of them and
    its serialization reads back. -/
theorem Manifest.length_lt_of_isValid {m : Manifest} (hv : m.isValid = true) :
    m.vChunks.length < 2 ^ 64 := by
  simp only [Manifest.isValid, Bool.and_eq_true, List.all_eq_true] at hv
  by_contra hlen
  obtain ⟨info, hinfo⟩ : ∃ info, m.vChunks[2 ^ 32]? = some info :=
    ⟨_, List.getElem?_eq_getElem (by omega)⟩
  have hnum := hv.2 (2 ^ 32, info) (List.mem_enum_iff_getElem?.mpr hinfo)
  have hlt := info.nChunkNumber.toNat_lt_size
  simp only [beq_iff_eq] at hnum
  simp only [UInt32.size] at hlt
  omega

/-- A prefix of a manifest's bytes loads as that manifest or not at all, and a strict prefix
    not at all. -/
theorem loadManifest_take {m : Manifest} (hm : m.vChunks.length < 2 ^ 64) (opens : Bool)
    (n : Nat) : (n < m.serialize.length → loadManifest opens (some (m.serialize.take n)) = none) ∧
      (loadManifest opens (some (m.serialize.take n)) = none ∨
        loadManifest opens (some (m.serialize.take n)) = some m) := by
  by_cases hn : n < m.serialize.length
  · have hnone : loadManifest opens (some (m.serialize.take n)) = none := by
      simp [loadManifest, Manifest.unserialize_take hm hn]
    exact ⟨fun _ => hnone, .inl hnone⟩
  · refine ⟨fun h => absurd h hn, ?_⟩
    have hself : Manifest.unserialize m.serialize = some (m, []) := by
      simpa using Manifest.unserialize_serialize hm []
    rw [List.take_of_length_le (by omega)]
    cases opens <;> cases hv : m.isValid <;> simp [loadManifest, hself, hv]

/-- A `SaveManifest` that returns `true` made the manifest the store's, and left in the file
    the bytes of its serialization that reached the disk. -/
theorem saveManifest_true {w : AutoFileWrite} {st : ManifestState} {m : Manifest}
    (h : (saveManifest w st m).1 = true) :
    (saveManifest w st m).2 = ⟨m, some (m.serialize.take w.nWritten)⟩ := by
  unfold saveManifest at h ⊢
  dsimp only at h ⊢
  split_ifs at h ⊢
  rfl

/-- `SaveManifest` leaves the file as it was, or the bytes of the manifest that reached it. -/
theorem saveManifest_file (w : AutoFileWrite) (st : ManifestState) (m : Manifest) :
    (saveManifest w st m).2.manifestFile = st.manifestFile ∨
      (saveManifest w st m).2.manifestFile = some (m.serialize.take w.nWritten) := by
  unfold saveManifest
  dsimp only
  split_ifs
  exacts [.inl rfl, .inr rfl, .inr rfl]

theorem saveManifest_manifest (w : AutoFileWrite) (st : ManifestState) (m : Manifest) :
    (saveManifest w { st with manifest := m } m).2.manifest = m := by
  unfold saveManifest
  dsimp only
  split_ifs <;> rfl

/-- The wire format reads back: every manifest, chunk request and chunk, followed by any bytes,
    unserializes to itself and leaves exactly those bytes. A valid manifest that `SaveManifest`
    wrote whole is the one `LoadManifest` reads; when bytes are lost at the close, a true
    `SaveManifest` leaves a file that `LoadManifest` rejects. -/
theorem snapshot_wire_round_trip :
    (∀ (m : Manifest) (rest : List UInt8), m.vChunks.length < 2 ^ 64 →
      Manifest.unserialize (m.serialize ++ rest) = some (m, rest)) ∧
    (∀ (msg : GetSnapshotChunk) (rest : List UInt8),
      GetSnapshotChunk.unserialize (msg.serialize ++ rest) = some (msg, rest)) ∧
    (∀ (msg : SnapshotChunk) (rest : List UInt8), msg.vData.length < 2 ^ 64 →
      SnapshotChunk.unserialize (msg.serialize ++ rest) = some (msg, rest)) ∧
    (∀ (w : AutoFileWrite) (st : ManifestState) (m : Manifest), m.isValid = true →
      (saveManifest w st m).1 = true → m.serialize.length ≤ w.nWritten →
      loadManifest true (saveManifest w st m).2.manifestFile = some m) ∧
    (∀ (w : AutoFileWrite) (st : ManifestState) (m : Manifest) (opens : Bool), m.isValid = true →
      (saveManifest w st m).1 = true → w.nWritten < m.serialize.length →
      loadManifest opens (saveManifest w st m).2.manifestFile = none) :=
  ⟨fun _ rest hm => Manifest.unserialize_serialize hm rest,
    GetSnapshotChunk.unserialize_serialize,
    fun _ rest hm => SnapshotChunk.unserialize_serialize hm rest,
    fun _ _ m hv hs hw => by
      rw [saveManifest_true hs, List.take_of_length_le hw]
      simpa using loadManifest_serialize hv (Manifest.length_lt_of_isValid hv) [],
    fun _ _ _ opens hv hs hw => by
      rw [saveManifest_true hs]
      exact (loadManifest_take (Manifest.length_lt_of_isValid hv) opens _).1 hw⟩

/-- The one-chunk manifest and a two-byte chunk read back, and the manifest written whole is
    loaded. -/
theorem snapshot_wire_round_trip_oneByte :
    oneByteManifest.vChunks.length < 2 ^ 64 ∧
    Manifest.unserialize (oneByteManifest.serialize ++ [9]) = some (oneByteManifest, [9]) ∧
    (⟨3, [1, 2]⟩ : SnapshotChunk).vData.length < 2 ^ 64 ∧
    SnapshotChunk.unserialize ((⟨3, [1, 2]⟩ : SnapshotChunk).serialize ++ []) =
      some (⟨3, [1, 2]⟩, []) ∧
    oneByteManifest.isValid = true ∧
    (saveManifest ⟨true, false, 100⟩ ⟨.empty, none⟩ oneByteManifest).1 = true ∧
    oneByteManifest.serialize.length ≤ 100 ∧
    loadManifest true (saveManifest ⟨true, false, 100⟩ ⟨.empty, none⟩ oneByteManifest).2.manifestFile =
      some oneByteManifest ∧
    (saveManifest ⟨true, false, 10⟩ ⟨.empty, none⟩ oneByteManifest).1 = true ∧
    10 < oneByteManifest.serialize.length ∧
    loadManifest true (saveManifest ⟨true, false, 10⟩ ⟨.empty, none⟩ oneByteManifest).2.manifestFile =
      none :=
  have h₁ : oneByteManifest.vChunks.length < 2 ^ 64 := by decide
  have h₂ : (⟨3, [1, 2]⟩ : SnapshotChunk).vData.length < 2 ^ 64 := by decide
  have h₃ : oneByteManifest.isValid = true := by decide
  have h₄ : (saveManifest ⟨true, false, 100⟩ ⟨.empty, none⟩ oneByteManifest).1 = true := by decide
  have h₅ : oneByteManifest.serialize.length ≤ 100 := by decide
  have h₆ : (saveManifest ⟨true, false, 10⟩ ⟨.empty, none⟩ oneByteManifest).1 = true := by decide
  have h₇ : 10 < oneByteManifest.serialize.length := by decide
  ⟨h₁, snapshot_wire_round_trip.1 _ _ h₁, h₂, snapshot_wire_round_trip.2.2.1 _ _ h₂, h₃, h₄, h₅,
    snapshot_wire_round_trip.2.2.2.1 _ _ _ h₃ h₄ h₅, h₆, h₇,
    snapshot_wire_round_trip.2.2.2.2 _ _ _ true h₃ h₆ h₇⟩

/-- `SaveManifest` of the one-chunk manifest where every `fwrite` returns in full and the flush
    at the close puts only ten of its bytes on the disk: it returns `true` and the store takes
    the manifest, yet `LoadManifest` then rejects the file. -/
theorem saveManifest_lost_tail :
    oneByteManifest.isValid = true ∧
    (saveManifest ⟨true, false, 10⟩ ⟨.empty, none⟩ oneByteManifest).1 = true ∧
    (saveManifest ⟨true, false, 10⟩ ⟨.empty, none⟩ oneByteManifest).2.manifest =
      oneByteManifest ∧
    loadManifest true (saveManifest ⟨true, false, 10⟩ ⟨.empty, none⟩ oneByteManifest).2.manifestFile
      = none := by
  decide

/-! ### Start-up -/

/-- `Initialize` succeeds exactly when the snapshot directory is there or can be made, and then
    leaves in the store the manifest `LoadManifest` read, or the compiled-in one when it read
    none. -/
theorem initStore_manifest (dirReady opens : Bool) (w : AutoFileWrite) (st : ManifestState) :
    (initStore dirReady opens w st).1 = dirReady ∧
    (initStore true opens w st).2.manifest =
      (loadManifest opens st.manifestFile).getD getHardcodedManifest := by
  constructor
  · cases dirReady
    · rfl
    · cases hl : loadManifest opens st.manifestFile <;>
        simp [initStore, hl, getHardcodedManifest_isValid]
  · cases hl : loadManifest opens st.manifestFile <;>
      simp [initStore, hl, getHardcodedManifest_isValid, saveManifest_manifest]

/-- A `manifest.dat` holding a valid manifest of one chunk at height 1 is what `Initialize`
    keeps, and it is not the compiled-in manifest. -/
theorem initStore_loads_valid_file :
    (initStore true true ⟨true, false, 0⟩ ⟨.empty, some oneByteManifest.serialize⟩).1 = true ∧
    (initStore true true ⟨true, false, 0⟩ ⟨.empty, some oneByteManifest.serialize⟩).2.manifest =
      oneByteManifest ∧
    oneByteManifest ≠ getHardcodedManifest := by
  have hl : loadManifest true (some oneByteManifest.serialize) = some oneByteManifest := by
    simpa using @loadManifest_serialize oneByteManifest (by decide) (by decide) []
  refine ⟨by simp [initStore, hl], by simp [initStore, hl], fun h => ?_⟩
  have := congrArg Manifest.nBlockHeight h
  exact absurd this (by decide)

/-! ### Restarts -/

/-- `InitSnapshotStore(nHeight)`: the store it makes is a fresh `CSnapshotStore`, whose manifest
    is `CSnapshotManifest()`, and the result is its `Initialize`. Only `manifest.dat` carries
    over from an earlier store. -/
def initSnapshotStore (dirReady opens : Bool) (w : AutoFileWrite)
    (manifestFile : Option (List UInt8)) : Bool × ManifestState :=
  initStore dirReady opens w ⟨.empty, manifestFile⟩

/-- A call over the node's life that reads or changes `manifest.dat`. -/
inductive ManifestCall
  /-- `InitSnapshotStore(nHeight)`, with its `Initialize` going as the arguments say. -/
  | initSnapshotStore (dirReady opens : Bool) (w : AutoFileWrite)
  /-- `CleanupChunks()`, whose `remove_all` takes `manifest.dat` unless it throws before
      reaching it (`removed` false). -/
  | cleanupChunks (throws removed : Bool)

/-- What each `InitSnapshotStore` of a run returns and leaves in its store, from the bytes of
    `manifest.dat` at the start. -/
def ManifestCall.starts : Option (List UInt8) → List ManifestCall → List (Bool × Manifest)
  | _, [] => []
  | file, .initSnapshotStore dirReady opens w :: calls =>
    let r := Snapshot.initSnapshotStore dirReady opens w file
    (r.1, r.2.manifest) :: starts r.2.manifestFile calls
  | file, .cleanupChunks throws removed :: calls => starts (removeAllLeaves throws removed file) calls

/-- `manifest.dat` is absent or holds a prefix of the compiled-in manifest's bytes. -/
def HardcodedPrefix (file : Option (List UInt8)) : Prop :=
  ∀ bytes, file = some bytes → bytes <+: getHardcodedManifest.serialize

/-- A file of the compiled-in manifest's bytes, whole or cut short, loads as that manifest or
    not at all. -/
theorem loadManifest_of_hardcodedPrefix {file : Option (List UInt8)} (h : HardcodedPrefix file)
    (opens : Bool) :
    loadManifest opens file = none ∨ loadManifest opens file = some getHardcodedManifest := by
  cases file with
  | none => exact .inl rfl
  | some bytes =>
    obtain ⟨ext, hext⟩ := h bytes rfl
    have htake : bytes = getHardcodedManifest.serialize.take bytes.length := by
      rw [← hext, List.take_left]
    rw [htake]
    exact (loadManifest_take (Manifest.length_lt_of_isValid getHardcodedManifest_isValid) opens
      _).2

/-- A start from such a file returns `true` with the compiled-in manifest, or `false` with the
    empty one, and leaves such a file. -/
theorem initSnapshotStore_hardcodedPrefix {file : Option (List UInt8)} (h : HardcodedPrefix file)
    (dirReady opens : Bool) (w : AutoFileWrite) :
    ((initSnapshotStore dirReady opens w file).1 = true →
      (initSnapshotStore dirReady opens w file).2.manifest = getHardcodedManifest) ∧
    ((initSnapshotStore dirReady opens w file).1 = false →
      (initSnapshotStore dirReady opens w file).2.manifest = .empty) ∧
    HardcodedPrefix (initSnapshotStore dirReady opens w file).2.manifestFile := by
  cases dirReady
  · exact ⟨nofun, fun _ => rfl, h⟩
  rcases loadManifest_of_hardcodedPrefix h opens with hl | hl
  · have hsave : initSnapshotStore true opens w file =
        (true, (saveManifest w ⟨getHardcodedManifest, file⟩ getHardcodedManifest).2) := by
      simp [initSnapshotStore, initStore, hl, getHardcodedManifest_isValid]
    rw [hsave]
    refine ⟨fun _ => saveManifest_manifest w ⟨.empty, file⟩ getHardcodedManifest, nofun, ?_⟩
    rcases saveManifest_file w ⟨getHardcodedManifest, file⟩ getHardcodedManifest with hf | hf <;>
      rw [hf]
    · exact h
    · exact fun bytes hb => Option.some.inj hb ▸ List.take_prefix _ _
  · exact ⟨fun _ => by simp [initSnapshotStore, initStore, hl],
      fun hf => by simp [initSnapshotStore, initStore, hl] at hf,
      by simpa [initSnapshotStore, initStore, hl] using h⟩

/-- Over every run of `InitSnapshotStore` and `CleanupChunks` from a snapshot directory whose
    `manifest.dat` is absent or holds a prefix of the compiled-in manifest's bytes, with the
    directory ready or not, the file opening or not, and any outcome of each write and removal,
    every `InitSnapshotStore` that returns `true` leaves the compiled-in manifest in its fresh
    store, and every one that returns `false` the empty manifest. -/
theorem initSnapshotStore_restarts (file : Option (List UInt8)) (hfile : HardcodedPrefix file)
    (calls : List ManifestCall) :
    ∀ r ∈ ManifestCall.starts file calls,
      (r.1 = true → r.2 = getHardcodedManifest) ∧ (r.1 = false → r.2 = .empty) := by
  induction calls generalizing file with
  | nil => exact fun _ h => nomatch h
  | cons call calls ih =>
    cases call with
    | initSnapshotStore dirReady opens w =>
      obtain ⟨htrue, hfalse, hnext⟩ := initSnapshotStore_hardcodedPrefix hfile dirReady opens w
      intro r hr
      rcases List.mem_cons.mp hr with rfl | hr
      · exact ⟨htrue, hfalse⟩
      · exact ih _ hnext r hr
    | cleanupChunks throws removed =>
      refine ih _ fun bytes hb => hfile bytes ?_
      unfold removeAllLeaves at hb
      split_ifs at hb
      exact hb

/-- A first start whose write of `manifest.dat` loses its tail at the close, a start with the
    directory missing, a `CleanupChunks` that takes the file, and a start that writes it
    whole. -/
def restartRun : List ManifestCall :=
  [.initSnapshotStore true true ⟨true, false, 10⟩, .initSnapshotStore false true ⟨true, false, 0⟩,
    .cleanupChunks false true, .initSnapshotStore true true ⟨true, false, 0⟩]

theorem initSnapshotStore_restarts_restartRun :
    HardcodedPrefix none ∧
    ∀ r ∈ ManifestCall.starts none restartRun,
      (r.1 = true → r.2 = getHardcodedManifest) ∧ (r.1 = false → r.2 = .empty) :=
  ⟨(fun _ h => nomatch h), initSnapshotStore_restarts none (fun _ h => nomatch h) restartRun⟩

end Snapshot

end Zclassic
