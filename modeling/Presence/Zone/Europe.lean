/-!
# Zones of Europe

Each entry is the name of a zone and its history: the first offset from universal time in seconds,
then every change as `instant:offset` (seconds since 1970 and seconds), and, for a zone that still
changes its clock each year, after a semicolon the first year of the yearly rule with its two
offsets and its two moments. `Presence.Zone.ofHistory?` reads the text.
-/

set_option autoImplicit false

namespace Presence.Zone

/-- Names and histories of the zones of Europe. -/
def europeHistories : List (String × String) := [
  ("Europe/Andorra",
   "364 -2177453164:0 -733881600:3600 481078800:7200 496803600:3600 512528400:7200 528253200:3600 543978000:7200 559702800:3600 575427600:7200 591152400:3600 606877200:7200 622602000:3600 638326800:7200 654656400:3600 670381200:7200 686106000:3600 701830800:7200 717555600:3600 733280400:7200 749005200:3600 764730000:7200 780454800:3600 796179600:7200 811904400:3600; 1996 3600 7200 3.5.0.7200 10.5.0.10800"),
  ("Europe/Astrakhan",
   "11532 -1441249932:10800 -1247540400:14400 354916800:18000 370724400:14400 386452800:18000 402260400:14400 417988800:18000 433796400:14400 449611200:18000 465343200:14400 481068000:18000 496792800:14400 512517600:18000 528242400:14400 543967200:18000 559692000:14400 575416800:18000 591141600:14400 622594800:10800 638319600:14400 654649200:10800 670374000:14400 717548400:10800 733273200:14400 748998000:10800 764722800:14400 780447600:10800 796172400:14400 811897200:10800 828226800:14400 846370800:10800 859676400:14400 877820400:10800 891126000:14400 909270000:10800 922575600:14400 941324400:10800 954025200:14400 972774000:10800 985474800:14400 1004223600:10800 1017529200:14400 1035673200:10800 1048978800:14400 1067122800:10800 1080428400:14400 1099177200:10800 1111878000:14400 1130626800:10800 1143327600:14400 1162076400:10800 1174777200:14400 1193526000:10800 1206831600:14400 1224975600:10800 1238281200:14400 1256425200:10800 1269730800:14400 1288479600:10800 1301180400:14400 1414274400:10800 1459033200:14400"),
  ("Europe/Athens",
   "5692 -1686101632:7200 -1182996000:10800 -1178161200:7200 -906861600:10800 -904878000:7200 -857257200:3600 -844477200:7200 -828237600:3600 -812422800:7200 -552362400:10800 -541652400:7200 166485600:10800 186184800:7200 198028800:10800 213753600:7200 228873600:10800 244080000:7200 260323200:10800 275446800:7200 291798000:10800 307407600:7200 323388000:10800 338936400:7200 354675600:10800 370400400:7200 386125200:10800 401850000:7200 417574800:10800 433299600:7200 449024400:10800 465354000:7200 481078800:10800 496803600:7200 512528400:10800 528253200:7200 543978000:10800 559702800:7200 575427600:10800 591152400:7200 606877200:10800 622602000:7200 638326800:10800 654656400:7200 670381200:10800 686106000:7200 701830800:10800 717555600:7200 733280400:10800 749005200:7200 764730000:10800 780454800:7200 796179600:10800 811904400:7200; 1996 7200 10800 3.5.0.10800 10.5.0.14400"),
  ("Europe/Belgrade",
   "4920 -2713915320:3600 -905824800:7200 -857257200:3600 -844556400:7200 -828226800:3600 -812502000:7200 -796777200:3600 -777942000:7200 -766623600:3600 417574800:7200 433299600:3600 449024400:7200 465354000:3600 481078800:7200 496803600:3600 512528400:7200 528253200:3600 543978000:7200 559702800:3600 575427600:7200 591152400:3600 606877200:7200 622602000:3600 638326800:7200 654656400:3600 670381200:7200 686106000:3600 701830800:7200 717555600:3600 733280400:7200 749005200:3600 764730000:7200 780454800:3600 796179600:7200 811904400:3600; 1996 3600 7200 3.5.0.7200 10.5.0.10800"),
  ("Europe/Berlin",
   "3208 -2422054408:3600 -1693706400:7200 -1680483600:3600 -1663455600:7200 -1650150000:3600 -1632006000:7200 -1618700400:3600 -938905200:7200 -857257200:3600 -844556400:7200 -828226800:3600 -812502000:7200 -796777200:3600 -781052400:7200 -776563200:10800 -765936000:7200 -761180400:3600 -748479600:7200 -733273200:3600 -717631200:7200 -714610800:10800 -710380800:7200 -701910000:3600 -684975600:7200 -670460400:3600 -654130800:7200 -639010800:3600 323830800:7200 338950800:3600 354675600:7200 370400400:3600 386125200:7200 401850000:3600 417574800:7200 433299600:3600 449024400:7200 465354000:3600 481078800:7200 496803600:3600 512528400:7200 528253200:3600 543978000:7200 559702800:3600 575427600:7200 591152400:3600 606877200:7200 622602000:3600 638326800:7200 654656400:3600 670381200:7200 686106000:3600 701830800:7200 717555600:3600 733280400:7200 749005200:3600 764730000:7200 780454800:3600 796179600:7200 811904400:3600; 1996 3600 7200 3.5.0.7200 10.5.0.10800"),
  ("Europe/Brussels",
   "1050 -2450995200:0 -1740355200:3600 -1693702800:7200 -1680483600:3600 -1663455600:7200 -1650150000:3600 -1632006000:7200 -1618700400:3600 -1613826000:0 -1604278800:3600 -1585530000:0 -1574038800:3600 -1552266000:0 -1539997200:3600 -1520557200:0 -1507510800:3600 -1490576400:0 -1473642000:3600 -1459126800:0 -1444006800:3600 -1427677200:0 -1411952400:3600 -1396227600:0 -1379293200:3600 -1364778000:0 -1348448400:3600 -1333328400:0 -1316394000:3600 -1301263200:0 -1284328800:3600 -1269813600:0 -1253484000:3600 -1238364000:0 -1221429600:3600 -1206914400:0 -1191189600:3600 -1175464800:0 -1160344800:3600 -1143410400:0 -1127685600:3600 -1111960800:0 -1096840800:3600 -1080511200:0 -1063576800:3600 -1049061600:0 -1033336800:3600 -1017612000:0 -1002492000:3600 -986162400:0 -969228000:3600 -950479200:0 -942012000:3600 -934668000:7200 -857257200:3600 -844556400:7200 -828226800:3600 -812502000:7200 -798073200:3600 -781052400:7200 -766623600:3600 -745455600:7200 -733273200:3600 228877200:7200 243997200:3600 260326800:7200 276051600:3600 291776400:7200 307501200:3600 323830800:7200 338950800:3600 354675600:7200 370400400:3600 386125200:7200 401850000:3600 417574800:7200 433299600:3600 449024400:7200 465354000:3600 481078800:7200 496803600:3600 512528400:7200 528253200:3600 543978000:7200 559702800:3600 575427600:7200 591152400:3600 606877200:7200 622602000:3600 638326800:7200 654656400:3600 670381200:7200 686106000:3600 701830800:7200 717555600:3600 733280400:7200 749005200:3600 764730000:7200 780454800:3600 796179600:7200 811904400:3600; 1996 3600 7200 3.5.0.7200 10.5.0.10800"),
  ("Europe/Bucharest",
   "6264 -1213148664:7200 -1187056800:10800 -1175479200:7200 -1159754400:10800 -1144029600:7200 -1127700000:10800 -1111975200:7200 -1096250400:10800 -1080525600:7200 -1064800800:10800 -1049076000:7200 -1033351200:10800 -1017626400:7200 -1001901600:10800 -986176800:7200 -970452000:10800 -954727200:7200 296604000:10800 307486800:7200 323816400:10800 338940000:7200 354672000:10800 370396800:7200 386121600:10800 401846400:7200 417571200:10800 433296000:7200 449020800:10800 465350400:7200 481075200:10800 496800000:7200 512524800:10800 528249600:7200 543974400:10800 559699200:7200 575424000:10800 591148800:7200 606873600:10800 622598400:7200 638323200:10800 654652800:7200 670370400:10800 686095200:7200 701820000:10800 717544800:7200 733269600:10800 748994400:7200 764719200:10800 780440400:7200 796168800:10800 811890000:7200 828223200:10800 846363600:7200; 1997 7200 10800 3.5.0.10800 10.5.0.14400"),
  ("Europe/Budapest",
   "4580 -2498260580:3600 -1693706400:7200 -1680483600:3600 -1663455600:7200 -1650150000:3600 -1632006000:7200 -1618700400:3600 -1600470000:7200 -1587250800:3600 -1569711600:7200 -1555196400:3600 -906775200:7200 -857257200:3600 -844556400:7200 -828226800:3600 -812502000:7200 -796777200:3600 -778471200:7200 -762656400:3600 -749689200:7200 -733276800:3600 -717634800:7200 -701910000:3600 -686185200:7200 -670460400:3600 -654130800:7200 -639010800:3600 -492656400:7200 -481168800:3600 -461199600:7200 -449708400:3600 -428540400:7200 -418258800:3600 -397090800:7200 -386809200:3600 323823600:7200 338943600:3600 354668400:7200 370393200:3600 386118000:7200 401842800:3600 417567600:7200 433292400:3600 449024400:7200 465354000:3600 481078800:7200 496803600:3600 512528400:7200 528253200:3600 543978000:7200 559702800:3600 575427600:7200 591152400:3600 606877200:7200 622602000:3600 638326800:7200 654656400:3600 670381200:7200 686106000:3600 701830800:7200 717555600:3600 733280400:7200 749005200:3600 764730000:7200 780454800:3600 796179600:7200 811904400:3600; 1996 3600 7200 3.5.0.7200 10.5.0.10800"),
  ("Europe/Chisinau",
   "6920 -2840147720:6900 -1637114100:6264 -1213148664:7200 -1187056800:10800 -1175479200:7200 -1159754400:10800 -1144029600:7200 -1127700000:10800 -1111975200:7200 -1096250400:10800 -1080525600:7200 -1064800800:10800 -1049076000:7200 -1033351200:10800 -1017626400:7200 -1001901600:10800 -986176800:7200 -970452000:10800 -954727200:7200 -927165600:10800 -898138800:7200 -857257200:3600 -844556400:7200 -828226800:3600 -812502000:7200 -800157600:10800 354920400:14400 370728000:10800 386456400:14400 402264000:10800 417992400:14400 433800000:10800 449614800:14400 465346800:10800 481071600:14400 496796400:10800 512521200:14400 528246000:10800 543970800:14400 559695600:10800 575420400:14400 591145200:10800 606870000:14400 622594800:10800 638319600:14400 641944800:10800 654652800:7200 670377600:10800 686102400:7200 701820000:10800 717541200:7200 733269600:10800 748990800:7200 764719200:10800 780440400:7200 796168800:10800 811890000:7200 828223200:10800 846363600:7200; 1997 7200 10800 3.5.0.7200 10.5.0.10800"),
  ("Europe/Dublin",
   "-1521 -1691962479:2079 -1680471279:0 -1664143200:3600 -1650146400:0 -1633903200:3600 -1617487200:0 -1601848800:3600 -1586037600:0 -1570399200:3600 -1552168800:0 -1538344800:3600 -1522533600:0 -1507500000:3600 -1490565600:0 -1473631200:3600 -1460930400:0 -1442786400:3600 -1428876000:0 -1410732000:3600 -1396216800:0 -1379282400:3600 -1364767200:0 -1348437600:3600 -1333317600:0 -1315778400:3600 -1301263200:0 -1284328800:3600 -1269813600:0 -1253484000:3600 -1238364000:0 -1221429600:3600 -1206914400:0 -1189980000:3600 -1175464800:0 -1159135200:3600 -1143410400:0 -1126476000:3600 -1111960800:0 -1095631200:3600 -1080511200:0 -1063576800:3600 -1049061600:0 -1032127200:3600 -1017612000:0 -1001282400:3600 -986162400:0 -969228000:3600 -950479200:0 -942012000:3600 -733356000:0 -719445600:3600 -699487200:0 -684972000:3600 -668037600:0 -654732000:3600 -636588000:0 -622072800:3600 -605743200:0 -590623200:3600 -574293600:0 -558568800:3600 -542239200:0 -527119200:3600 -512604000:0 -496274400:3600 -481154400:0 -464220000:3600 -449704800:0 -432165600:3600 -417650400:0 -401320800:3600 -386200800:0 -369266400:3600 -354751200:0 -337816800:3600 -323301600:0 -306972000:3600 -291852000:0 -276732000:3600 -257983200:0 -245282400:3600 -226533600:0 -213228000:3600 -195084000:0 -182383200:3600 -163634400:0 -150933600:3600 -132184800:0 -119484000:3600 -100735200:0 -88034400:3600 -68680800:0 -59004000:3600 57722400:0 69818400:3600 89172000:0 101268000:3600 120621600:0 132717600:3600 152071200:0 164167200:3600 183520800:0 196221600:3600 214970400:0 227671200:3600 246420000:0 259120800:3600 278474400:0 290570400:3600 309924000:0 322020000:3600 341373600:0 354675600:3600 372819600:0 386125200:3600 404269200:0 417574800:3600 435718800:0 449024400:3600 467773200:0 481078800:3600 499222800:0 512528400:3600 530672400:0 543978000:3600 562122000:0 575427600:3600 593571600:0 606877200:3600 625626000:0 638326800:3600 657075600:0 670381200:3600 688525200:0 701830800:3600 719974800:0 733280400:3600 751424400:0 764730000:3600 782874000:0 796179600:3600 814323600:0; 1996 0 3600 3.5.0.3600 10.5.0.7200"),
  ("Europe/Gibraltar",
   "-1284 -2821649916:0 -1691964000:3600 -1680472800:0 -1664143200:3600 -1650146400:0 -1633903200:3600 -1617487200:0 -1601848800:3600 -1586037600:0 -1570399200:3600 -1552168800:0 -1538344800:3600 -1522533600:0 -1507500000:3600 -1490565600:0 -1473631200:3600 -1460930400:0 -1442786400:3600 -1428876000:0 -1410732000:3600 -1396216800:0 -1379282400:3600 -1364767200:0 -1348437600:3600 -1333317600:0 -1315778400:3600 -1301263200:0 -1284328800:3600 -1269813600:0 -1253484000:3600 -1238364000:0 -1221429600:3600 -1206914400:0 -1189980000:3600 -1175464800:0 -1159135200:3600 -1143410400:0 -1126476000:3600 -1111960800:0 -1095631200:3600 -1080511200:0 -1063576800:3600 -1049061600:0 -1032127200:3600 -1017612000:0 -1001282400:3600 -986162400:0 -969228000:3600 -950479200:0 -942012000:3600 -904518000:7200 -896050800:3600 -875487600:7200 -864601200:3600 -844038000:7200 -832546800:3600 -812588400:7200 -798073200:3600 -781052400:7200 -772066800:3600 -764805600:0 -748476000:3600 -733356000:0 -719445600:3600 -717030000:7200 -706748400:3600 -699487200:0 -687996000:3600 -668037600:0 -654732000:3600 -636588000:0 -622072800:3600 -605743200:0 -590623200:3600 -574293600:0 -558568800:3600 -542239200:0 -527119200:3600 -512604000:0 -496274400:3600 -481154400:0 -464220000:3600 -449704800:0 -432165600:3600 -417650400:0 -401320800:3600 386125200:7200 401850000:3600 417574800:7200 433299600:3600 449024400:7200 465354000:3600 481078800:7200 496803600:3600 512528400:7200 528253200:3600 543978000:7200 559702800:3600 575427600:7200 591152400:3600 606877200:7200 622602000:3600 638326800:7200 654656400:3600 670381200:7200 686106000:3600 701830800:7200 717555600:3600 733280400:7200 749005200:3600 764730000:7200 780454800:3600 796179600:7200 811904400:3600; 1996 3600 7200 3.5.0.7200 10.5.0.10800"),
  ("Europe/Helsinki",
   "5989 -1535938789:7200 -875671200:10800 -859773600:7200 354672000:10800 370396800:7200 386121600:10800 401846400:7200 417574800:10800 433299600:7200 449024400:10800 465354000:7200 481078800:10800 496803600:7200 512528400:10800 528253200:7200 543978000:10800 559702800:7200 575427600:10800 591152400:7200 606877200:10800 622602000:7200 638326800:10800 654656400:7200 670381200:10800 686106000:7200 701830800:10800 717555600:7200 733280400:10800 749005200:7200 764730000:10800 780454800:7200 796179600:10800 811904400:7200; 1996 7200 10800 3.5.0.10800 10.5.0.14400"),
  ("Europe/Istanbul",
   "6952 -2840147752:7016 -1869875816:7200 -1693706400:10800 -1680490800:7200 -1570413600:10800 -1552186800:7200 -1538359200:10800 -1522551600:7200 -1507514400:10800 -1490583600:7200 -1440208800:10800 -1428030000:7200 -1409709600:10800 -1396494000:7200 -931053600:10800 -922676400:7200 -917834400:10800 -892436400:7200 -875844000:10800 -764737200:7200 -744343200:10800 -733806000:7200 -716436000:10800 -701924400:7200 -684986400:10800 -670474800:7200 -654141600:10800 -639025200:7200 -622087200:10800 -606970800:7200 -590032800:10800 -575521200:7200 -235620000:10800 -194842800:7200 -177732000:10800 -165726000:7200 107910000:10800 121215600:7200 133920000:10800 152665200:7200 164678400:10800 184114800:7200 196214400:10800 215564400:7200 228873600:10800 245804400:7200 260323200:10800 428454000:14400 433893600:10800 468111600:7200 482799600:10800 496710000:7200 512521200:10800 528246000:7200 543970800:10800 559695600:7200 575420400:10800 591145200:7200 606870000:10800 622594800:7200 638319600:10800 654649200:7200 670374000:10800 686098800:7200 701823600:10800 717548400:7200 733273200:10800 748998000:7200 764118000:10800 780447600:7200 796172400:10800 811897200:7200 828226800:10800 846370800:7200 859676400:10800 877820400:7200 891126000:10800 909270000:7200 922575600:10800 941324400:7200 954025200:10800 972774000:7200 985474800:10800 1004223600:7200 1017529200:10800 1035673200:7200 1048978800:10800 1067122800:7200 1080428400:10800 1099177200:7200 1111878000:10800 1130626800:7200 1143327600:10800 1162076400:7200 1174784400:10800 1193533200:7200 1206838800:10800 1224982800:7200 1238288400:10800 1256432400:7200 1269738000:10800 1288486800:7200 1301274000:10800 1319936400:7200 1332637200:10800 1351386000:7200 1364691600:10800 1382835600:7200 1396227600:10800 1414285200:7200 1427590800:10800 1446944400:7200 1459040400:10800"),
  ("Europe/Kaliningrad",
   "4920 -2422056120:3600 -1693706400:7200 -1680483600:3600 -1663455600:7200 -1650150000:3600 -1632006000:7200 -1618700400:3600 -938905200:7200 -857257200:3600 -844556400:7200 -828226800:3600 -812502000:7200 -796777200:3600 -781052400:7200 -778730400:10800 -762663600:7200 -749095200:10800 354920400:14400 370728000:10800 386456400:14400 402264000:10800 417992400:14400 433800000:10800 449614800:14400 465346800:10800 481071600:14400 496796400:10800 512521200:14400 528246000:10800 543970800:14400 559695600:10800 575420400:14400 591145200:10800 622598400:7200 638323200:10800 654652800:7200 670377600:10800 686102400:7200 701827200:10800 717552000:7200 733276800:10800 749001600:7200 764726400:10800 780451200:7200 796176000:10800 811900800:7200 828230400:10800 846374400:7200 859680000:10800 877824000:7200 891129600:10800 909273600:7200 922579200:10800 941328000:7200 954028800:10800 972777600:7200 985478400:10800 1004227200:7200 1017532800:10800 1035676800:7200 1048982400:10800 1067126400:7200 1080432000:10800 1099180800:7200 1111881600:10800 1130630400:7200 1143331200:10800 1162080000:7200 1174780800:10800 1193529600:7200 1206835200:10800 1224979200:7200 1238284800:10800 1256428800:7200 1269734400:10800 1288483200:7200 1301184000:10800 1414278000:7200"),
  ("Europe/Kirov",
   "11928 -1593820800:10800 -1247540400:14400 354916800:18000 370724400:14400 386452800:18000 402260400:14400 417988800:18000 433796400:14400 449611200:18000 465343200:14400 481068000:18000 496792800:14400 512517600:18000 528242400:14400 543967200:18000 559692000:14400 575416800:18000 591141600:14400 622594800:10800 638319600:14400 654649200:10800 670374000:14400 717548400:10800 733273200:14400 748998000:10800 764722800:14400 780447600:10800 796172400:14400 811897200:10800 828226800:14400 846370800:10800 859676400:14400 877820400:10800 891126000:14400 909270000:10800 922575600:14400 941324400:10800 954025200:14400 972774000:10800 985474800:14400 1004223600:10800 1017529200:14400 1035673200:10800 1048978800:14400 1067122800:10800 1080428400:14400 1099177200:10800 1111878000:14400 1130626800:10800 1143327600:14400 1162076400:10800 1174777200:14400 1193526000:10800 1206831600:14400 1224975600:10800 1238281200:14400 1256425200:10800 1269730800:14400 1288479600:10800 1301180400:14400 1414274400:10800"),
  ("Europe/Kyiv",
   "7324 -1441159324:7200 -1247536800:10800 -892522800:7200 -857257200:3600 -844556400:7200 -828226800:3600 -825382800:10800 354920400:14400 370728000:10800 386456400:14400 402264000:10800 417992400:14400 433800000:10800 449614800:14400 465346800:10800 481071600:14400 496796400:10800 512521200:14400 528246000:10800 543970800:14400 559695600:10800 575420400:14400 591145200:10800 606870000:14400 622594800:10800 638319600:14400 646783200:10800 686102400:7200 701827200:10800 717552000:7200 733276800:10800 749001600:7200 764726400:10800 780451200:7200 796176000:10800 811900800:7200 828230400:10800 846378000:7200; 1997 7200 10800 3.5.0.10800 10.5.0.14400"),
  ("Europe/Lisbon",
   "-2205 -1830384000:0 -1689555600:3600 -1677801600:0 -1667433600:3600 -1647738000:0 -1635897600:3600 -1616202000:0 -1604361600:3600 -1584666000:0 -1572739200:3600 -1553043600:0 -1541203200:3600 -1521507600:0 -1442451600:3600 -1427677200:0 -1379293200:3600 -1364778000:0 -1348448400:3600 -1333328400:0 -1316394000:3600 -1301274000:0 -1284339600:3600 -1269824400:0 -1221440400:3600 -1206925200:0 -1191200400:3600 -1175475600:0 -1127696400:3600 -1111971600:0 -1096851600:3600 -1080522000:0 -1063587600:3600 -1049072400:0 -1033347600:3600 -1017622800:0 -1002502800:3600 -986173200:0 -969238800:3600 -950490000:0 -942022800:3600 -922496400:0 -906944400:3600 -891133200:0 -877309200:3600 -873684000:7200 -864007200:3600 -857955600:0 -845859600:3600 -842839200:7200 -831348000:3600 -825901200:0 -814410000:3600 -810784800:7200 -799898400:3600 -794451600:0 -782960400:3600 -779335200:7200 -768448800:3600 -763002000:0 -749091600:3600 -733366800:0 -717631200:3600 -701906400:0 -686181600:3600 -670456800:0 -654732000:3600 -639007200:0 -623282400:3600 -607557600:0 -591832800:3600 -575503200:0 -559778400:3600 -544053600:0 -528328800:3600 -512604000:0 -496879200:3600 -481154400:0 -465429600:3600 -449704800:0 -433980000:3600 -417650400:0 -401925600:3600 -386200800:0 -370476000:3600 -354751200:0 -339026400:3600 -323301600:0 -307576800:3600 -291852000:0 -276127200:3600 -260402400:0 -244677600:3600 -228348000:0 -212623200:3600 -196898400:0 -181173600:3600 -165448800:0 -149724000:3600 -133999200:0 -118274400:3600 212544000:0 228268800:3600 243993600:0 260326800:3600 276051600:0 291776400:3600 307501200:0 323830800:3600 338950800:0 354672000:3600 370396800:0 386121600:3600 401846400:0 417571200:3600 433296000:0 449020800:3600 465350400:0 481075200:3600 496800000:0 512528400:3600 528253200:0 543978000:3600 559702800:0 575427600:3600 591152400:0 606877200:3600 622602000:0 638326800:3600 654656400:0 670381200:3600 686106000:0 701830800:3600 733280400:7200 749005200:3600 764730000:7200 780454800:3600 796179600:7200 811904400:3600 846378000:0; 1997 0 3600 3.5.0.3600 10.5.0.7200"),
  ("Europe/London",
   "-75 -3852662325:0 -1691964000:3600 -1680472800:0 -1664143200:3600 -1650146400:0 -1633903200:3600 -1617487200:0 -1601848800:3600 -1586037600:0 -1570399200:3600 -1552168800:0 -1538344800:3600 -1522533600:0 -1507500000:3600 -1490565600:0 -1473631200:3600 -1460930400:0 -1442786400:3600 -1428876000:0 -1410732000:3600 -1396216800:0 -1379282400:3600 -1364767200:0 -1348437600:3600 -1333317600:0 -1315778400:3600 -1301263200:0 -1284328800:3600 -1269813600:0 -1253484000:3600 -1238364000:0 -1221429600:3600 -1206914400:0 -1189980000:3600 -1175464800:0 -1159135200:3600 -1143410400:0 -1126476000:3600 -1111960800:0 -1095631200:3600 -1080511200:0 -1063576800:3600 -1049061600:0 -1032127200:3600 -1017612000:0 -1001282400:3600 -986162400:0 -969228000:3600 -950479200:0 -942012000:3600 -904518000:7200 -896050800:3600 -875487600:7200 -864601200:3600 -844038000:7200 -832546800:3600 -812588400:7200 -798073200:3600 -781052400:7200 -772066800:3600 -764805600:0 -748476000:3600 -733356000:0 -719445600:3600 -717030000:7200 -706748400:3600 -699487200:0 -687996000:3600 -668037600:0 -654732000:3600 -636588000:0 -622072800:3600 -605743200:0 -590623200:3600 -574293600:0 -558568800:3600 -542239200:0 -527119200:3600 -512604000:0 -496274400:3600 -481154400:0 -464220000:3600 -449704800:0 -432165600:3600 -417650400:0 -401320800:3600 -386200800:0 -369266400:3600 -354751200:0 -337816800:3600 -323301600:0 -306972000:3600 -291852000:0 -276732000:3600 -257983200:0 -245282400:3600 -226533600:0 -213228000:3600 -195084000:0 -182383200:3600 -163634400:0 -150933600:3600 -132184800:0 -119484000:3600 -100735200:0 -88034400:3600 -68680800:0 -59004000:3600 57722400:0 69818400:3600 89172000:0 101268000:3600 120621600:0 132717600:3600 152071200:0 164167200:3600 183520800:0 196221600:3600 214970400:0 227671200:3600 246420000:0 259120800:3600 278474400:0 290570400:3600 309924000:0 322020000:3600 341373600:0 354675600:3600 372819600:0 386125200:3600 404269200:0 417574800:3600 435718800:0 449024400:3600 467773200:0 481078800:3600 499222800:0 512528400:3600 530672400:0 543978000:3600 562122000:0 575427600:3600 593571600:0 606877200:3600 625626000:0 638326800:3600 657075600:0 670381200:3600 688525200:0 701830800:3600 719974800:0 733280400:3600 751424400:0 764730000:3600 782874000:0 796179600:3600 814323600:0; 1996 0 3600 3.5.0.3600 10.5.0.7200"),
  ("Europe/Madrid",
   "-884 -2177452800:0 -1631926800:3600 -1616889600:0 -1601168400:3600 -1585353600:0 -1442451600:3600 -1427673600:0 -1379293200:3600 -1364774400:0 -1348448400:3600 -1333324800:0 -1316390400:3600 -1301270400:0 -1284339600:3600 -1269820800:0 -1026954000:3600 -1017619200:0 -1001898000:3600 -999482400:7200 -986090400:3600 -954115200:0 -940208400:3600 -873079200:7200 -862621200:3600 -842839200:7200 -828320400:3600 -811389600:7200 -796870800:3600 -779940000:7200 -765421200:3600 -748490400:7200 -733971600:3600 -652327200:7200 -639018000:3600 135122400:7200 150246000:3600 166572000:7200 181695600:3600 196812000:7200 212540400:3600 228866400:7200 243990000:3600 260326800:7200 276051600:3600 291776400:7200 307501200:3600 323830800:7200 338950800:3600 354675600:7200 370400400:3600 386125200:7200 401850000:3600 417574800:7200 433299600:3600 449024400:7200 465354000:3600 481078800:7200 496803600:3600 512528400:7200 528253200:3600 543978000:7200 559702800:3600 575427600:7200 591152400:3600 606877200:7200 622602000:3600 638326800:7200 654656400:3600 670381200:7200 686106000:3600 701830800:7200 717555600:3600 733280400:7200 749005200:3600 764730000:7200 780454800:3600 796179600:7200 811904400:3600; 1996 3600 7200 3.5.0.7200 10.5.0.10800"),
  ("Europe/Malta",
   "3484 -2403478684:3600 -1690765200:7200 -1680487200:3600 -1664758800:7200 -1648951200:3600 -1635123600:7200 -1616896800:3600 -1604278800:7200 -1585533600:3600 -1571014800:7200 -1555293600:3600 -932432400:7200 -857257200:3600 -844556400:7200 -828226800:3600 -812588400:7200 -798073200:3600 -781052400:7200 -766717200:3600 -750898800:7200 -733359600:3600 -719456400:7200 -701917200:3600 -689209200:7200 -670460400:3600 -114051600:7200 -103168800:3600 -81997200:7200 -71715600:3600 -50547600:7200 -40266000:3600 -18493200:7200 -8211600:3600 12956400:7200 23238000:3600 43801200:7200 54687600:3600 75855600:7200 86742000:3600 102380400:7200 118105200:3600 135730800:7200 148518000:3600 167187600:7200 180489600:3600 198637200:7200 211939200:3600 230086800:7200 243388800:3600 261536400:7200 274838400:3600 292986000:7200 306288000:3600 323312400:7200 338342400:3600 354675600:7200 370400400:3600 386125200:7200 401850000:3600 417574800:7200 433299600:3600 449024400:7200 465354000:3600 481078800:7200 496803600:3600 512528400:7200 528253200:3600 543978000:7200 559702800:3600 575427600:7200 591152400:3600 606877200:7200 622602000:3600 638326800:7200 654656400:3600 670381200:7200 686106000:3600 701830800:7200 717555600:3600 733280400:7200 749005200:3600 764730000:7200 780454800:3600 796179600:7200 811904400:3600; 1996 3600 7200 3.5.0.7200 10.5.0.10800"),
  ("Europe/Minsk",
   "6616 -2840147416:6600 -1441158600:7200 -1247536800:10800 -899780400:7200 -857257200:3600 -844556400:7200 -828226800:3600 -812502000:7200 -804650400:10800 354920400:14400 370728000:10800 386456400:14400 402264000:10800 417992400:14400 433800000:10800 449614800:14400 465346800:10800 481071600:14400 496796400:10800 512521200:14400 528246000:10800 543970800:14400 559695600:10800 575420400:14400 591145200:10800 606870000:14400 622594800:10800 686102400:7200 701827200:10800 717552000:7200 733276800:10800 749001600:7200 764726400:10800 780451200:7200 796176000:10800 811900800:7200 828230400:10800 846374400:7200 859680000:10800 877824000:7200 891129600:10800 909273600:7200 922579200:10800 941328000:7200 954028800:10800 972777600:7200 985478400:10800 1004227200:7200 1017532800:10800 1035676800:7200 1048982400:10800 1067126400:7200 1080432000:10800 1099180800:7200 1111881600:10800 1130630400:7200 1143331200:10800 1162080000:7200 1174780800:10800 1193529600:7200 1206835200:10800 1224979200:7200 1238284800:10800 1256428800:7200 1269734400:10800 1288483200:7200 1301184000:10800"),
  ("Europe/Moscow",
   "9017 -1688265017:9079 -1656819079:12679 -1641353479:9079 -1627965079:16279 -1618716679:12679 -1596429079:16279 -1593820800:14400 -1589860800:10800 -1542427200:14400 -1539493200:18000 -1525323600:14400 -1522728000:10800 -1491188400:7200 -1247536800:10800 354920400:14400 370728000:10800 386456400:14400 402264000:10800 417992400:14400 433800000:10800 449614800:14400 465346800:10800 481071600:14400 496796400:10800 512521200:14400 528246000:10800 543970800:14400 559695600:10800 575420400:14400 591145200:10800 606870000:14400 622594800:10800 638319600:14400 654649200:10800 686102400:7200 695779200:10800 701823600:14400 717548400:10800 733273200:14400 748998000:10800 764722800:14400 780447600:10800 796172400:14400 811897200:10800 828226800:14400 846370800:10800 859676400:14400 877820400:10800 891126000:14400 909270000:10800 922575600:14400 941324400:10800 954025200:14400 972774000:10800 985474800:14400 1004223600:10800 1017529200:14400 1035673200:10800 1048978800:14400 1067122800:10800 1080428400:14400 1099177200:10800 1111878000:14400 1130626800:10800 1143327600:14400 1162076400:10800 1174777200:14400 1193526000:10800 1206831600:14400 1224975600:10800 1238281200:14400 1256425200:10800 1269730800:14400 1288479600:10800 1301180400:14400 1414274400:10800"),
  ("Europe/Paris",
   "561 -1855958961:0 -1689814800:3600 -1680397200:0 -1665363600:3600 -1648342800:0 -1635123600:3600 -1616893200:0 -1604278800:3600 -1585443600:0 -1574038800:3600 -1552266000:0 -1539997200:3600 -1520557200:0 -1507510800:3600 -1490576400:0 -1470618000:3600 -1459126800:0 -1444006800:3600 -1427677200:0 -1411952400:3600 -1396227600:0 -1379293200:3600 -1364778000:0 -1348448400:3600 -1333328400:0 -1316394000:3600 -1301274000:0 -1284339600:3600 -1269824400:0 -1253494800:3600 -1238374800:0 -1221440400:3600 -1206925200:0 -1191200400:3600 -1175475600:0 -1160355600:3600 -1143421200:0 -1127696400:3600 -1111971600:0 -1096851600:3600 -1080522000:0 -1063587600:3600 -1049072400:0 -1033347600:3600 -1017622800:0 -1002502800:3600 -986173200:0 -969238800:3600 -950490000:0 -942012000:3600 -932436000:7200 -857257200:3600 -844556400:7200 -828226800:3600 -812502000:7200 -796266000:3600 -781052400:7200 -766623600:3600 196819200:7200 212540400:3600 228877200:7200 243997200:3600 260326800:7200 276051600:3600 291776400:7200 307501200:3600 323830800:7200 338950800:3600 354675600:7200 370400400:3600 386125200:7200 401850000:3600 417574800:7200 433299600:3600 449024400:7200 465354000:3600 481078800:7200 496803600:3600 512528400:7200 528253200:3600 543978000:7200 559702800:3600 575427600:7200 591152400:3600 606877200:7200 622602000:3600 638326800:7200 654656400:3600 670381200:7200 686106000:3600 701830800:7200 717555600:3600 733280400:7200 749005200:3600 764730000:7200 780454800:3600 796179600:7200 811904400:3600; 1996 3600 7200 3.5.0.7200 10.5.0.10800"),
  ("Europe/Prague",
   "3464 -2469401864:3600 -1693706400:7200 -1680483600:3600 -1663455600:7200 -1650150000:3600 -1632006000:7200 -1618700400:3600 -938905200:7200 -857257200:3600 -844556400:7200 -828226800:3600 -812502000:7200 -796777200:3600 -781052400:7200 -765327600:3600 -746578800:7200 -733359600:3600 -728517600:0 -721260000:3600 -716425200:7200 -701910000:3600 -684975600:7200 -670460400:3600 -654217200:7200 -639010800:3600 291776400:7200 307501200:3600 323830800:7200 338950800:3600 354675600:7200 370400400:3600 386125200:7200 401850000:3600 417574800:7200 433299600:3600 449024400:7200 465354000:3600 481078800:7200 496803600:3600 512528400:7200 528253200:3600 543978000:7200 559702800:3600 575427600:7200 591152400:3600 606877200:7200 622602000:3600 638326800:7200 654656400:3600 670381200:7200 686106000:3600 701830800:7200 717555600:3600 733280400:7200 749005200:3600 764730000:7200 780454800:3600 796179600:7200 811904400:3600; 1996 3600 7200 3.5.0.7200 10.5.0.10800"),
  ("Europe/Riga",
   "5794 -1632008194:9394 -1618702594:5794 -1601681794:9394 -1597275394:5794 -1377308194:7200 -928029600:10800 -899521200:7200 -857257200:3600 -844556400:7200 -828226800:3600 -812502000:7200 -796777200:3600 -795834000:10800 354920400:14400 370728000:10800 386456400:14400 402264000:10800 417992400:14400 433800000:10800 449614800:14400 465346800:10800 481071600:14400 496796400:10800 512521200:14400 528246000:10800 543970800:14400 559695600:10800 575420400:14400 591145200:10800 622598400:7200 638323200:10800 654652800:7200 670377600:10800 686102400:7200 701827200:10800 717552000:7200 733276800:10800 749001600:7200 764726400:10800 780451200:7200 796176000:10800 811900800:7200 828230400:10800 843955200:7200 859683600:10800 877827600:7200 891133200:10800 909277200:7200 922582800:10800 941331600:7200; 2001 7200 10800 3.5.0.10800 10.5.0.14400"),
  ("Europe/Rome",
   "2996 -2403565200:3600 -1690765200:7200 -1680487200:3600 -1664758800:7200 -1648951200:3600 -1635123600:7200 -1616896800:3600 -1604278800:7200 -1585533600:3600 -1571014800:7200 -1555293600:3600 -932432400:7200 -857257200:3600 -844556400:7200 -828226800:3600 -812502000:7200 -798073200:3600 -781052400:7200 -766717200:3600 -750898800:7200 -733359600:3600 -719456400:7200 -701917200:3600 -689209200:7200 -670460400:3600 -114051600:7200 -103168800:3600 -81997200:7200 -71715600:3600 -50547600:7200 -40266000:3600 -18493200:7200 -8211600:3600 12956400:7200 23238000:3600 43801200:7200 54687600:3600 75855600:7200 86742000:3600 107910000:7200 118191600:3600 138754800:7200 149641200:3600 170809200:7200 181090800:3600 202258800:7200 212540400:3600 233103600:7200 243990000:3600 265158000:7200 276044400:3600 296607600:7200 307494000:3600 323830800:7200 338950800:3600 354675600:7200 370400400:3600 386125200:7200 401850000:3600 417574800:7200 433299600:3600 449024400:7200 465354000:3600 481078800:7200 496803600:3600 512528400:7200 528253200:3600 543978000:7200 559702800:3600 575427600:7200 591152400:3600 606877200:7200 622602000:3600 638326800:7200 654656400:3600 670381200:7200 686106000:3600 701830800:7200 717555600:3600 733280400:7200 749005200:3600 764730000:7200 780454800:3600 796179600:7200 811904400:3600; 1996 3600 7200 3.5.0.7200 10.5.0.10800"),
  ("Europe/Samara",
   "12020 -1593820800:10800 -1247540400:14400 354916800:18000 370724400:14400 386452800:18000 402260400:14400 417988800:18000 433796400:14400 449611200:18000 465343200:14400 481068000:18000 496792800:14400 512517600:18000 528242400:14400 543967200:18000 559692000:14400 575416800:18000 591141600:14400 622594800:10800 638319600:14400 654649200:10800 687916800:14400 701820000:18000 717544800:14400 733269600:18000 748994400:14400 764719200:18000 780444000:14400 796168800:18000 811893600:14400 828223200:18000 846367200:14400 859672800:18000 877816800:14400 891122400:18000 909266400:14400 922572000:18000 941320800:14400 954021600:18000 972770400:14400 985471200:18000 1004220000:14400 1017525600:18000 1035669600:14400 1048975200:18000 1067119200:14400 1080424800:18000 1099173600:14400 1111874400:18000 1130623200:14400 1143324000:18000 1162072800:14400 1174773600:18000 1193522400:14400 1206828000:18000 1224972000:14400 1238277600:18000 1256421600:14400 1288479600:10800 1301180400:14400"),
  ("Europe/Saratov",
   "11058 -1593820800:10800 -1247540400:14400 354916800:18000 370724400:14400 386452800:18000 402260400:14400 417988800:18000 433796400:14400 449611200:18000 465343200:14400 481068000:18000 496792800:14400 512517600:18000 528242400:14400 543967200:18000 559692000:14400 591145200:10800 606870000:14400 622594800:10800 638319600:14400 654649200:10800 670374000:14400 717548400:10800 733273200:14400 748998000:10800 764722800:14400 780447600:10800 796172400:14400 811897200:10800 828226800:14400 846370800:10800 859676400:14400 877820400:10800 891126000:14400 909270000:10800 922575600:14400 941324400:10800 954025200:14400 972774000:10800 985474800:14400 1004223600:10800 1017529200:14400 1035673200:10800 1048978800:14400 1067122800:10800 1080428400:14400 1099177200:10800 1111878000:14400 1130626800:10800 1143327600:14400 1162076400:10800 1174777200:14400 1193526000:10800 1206831600:14400 1224975600:10800 1238281200:14400 1256425200:10800 1269730800:14400 1288479600:10800 1301180400:14400 1414274400:10800 1480806000:14400"),
  ("Europe/Simferopol",
   "8184 -2840148984:8160 -1441160160:7200 -1247536800:10800 -888894000:7200 -857257200:3600 -844556400:7200 -828226800:3600 -812502000:7200 -811648800:10800 354920400:14400 370728000:10800 386456400:14400 402264000:10800 417992400:14400 433800000:10800 449614800:14400 465346800:10800 481071600:14400 496796400:10800 512521200:14400 528246000:10800 543970800:14400 559695600:10800 575420400:14400 591145200:10800 606870000:14400 622594800:10800 646786800:7200 701827200:10800 717552000:7200 733276800:10800 749001600:7200 764726400:10800 767739600:14400 780447600:10800 796172400:14400 811897200:10800 828219600:14400 846374400:10800 877827600:7200 891133200:10800 909277200:7200 922582800:10800 941331600:7200 954032400:10800 972781200:7200 985482000:10800 1004230800:7200 1017536400:10800 1035680400:7200 1048986000:10800 1067130000:7200 1080435600:10800 1099184400:7200 1111885200:10800 1130634000:7200 1143334800:10800 1162083600:7200 1174784400:10800 1193533200:7200 1206838800:10800 1224982800:7200 1238288400:10800 1256432400:7200 1269738000:10800 1288486800:7200 1301187600:10800 1319936400:7200 1332637200:10800 1351386000:7200 1364691600:10800 1382835600:7200 1396137600:14400 1414274400:10800"),
  ("Europe/Sofia",
   "5596 -2840146396:7016 -2369527016:7200 -857257200:3600 -844556400:7200 -828226800:3600 -812502000:7200 -796777200:3600 -781048800:7200 291762000:10800 307576800:7200 323816400:10800 339026400:7200 355266000:10800 370393200:7200 386715600:10800 401846400:7200 417571200:10800 433296000:7200 449020800:10800 465350400:7200 481075200:10800 496800000:7200 512524800:10800 528249600:7200 543974400:10800 559699200:7200 575424000:10800 591148800:7200 606873600:10800 622598400:7200 638323200:10800 654652800:7200 670370400:10800 686091600:7200 701820000:10800 717541200:7200 733269600:10800 748990800:7200 764719200:10800 780440400:7200 796168800:10800 811890000:7200 828223200:10800 846363600:7200; 1997 7200 10800 3.5.0.10800 10.5.0.14400"),
  ("Europe/Tallinn",
   "5940 -1638322740:3600 -1632006000:7200 -1618700400:3600 -1593824400:5940 -1535938740:7200 -927943200:10800 -892954800:7200 -857257200:3600 -844556400:7200 -828226800:3600 -812502000:7200 -797652000:10800 354920400:14400 370728000:10800 386456400:14400 402264000:10800 417992400:14400 433800000:10800 449614800:14400 465346800:10800 481071600:14400 496796400:10800 512521200:14400 528246000:10800 543970800:14400 559695600:10800 575420400:14400 591145200:10800 622598400:7200 638323200:10800 654652800:7200 670377600:10800 686102400:7200 701827200:10800 717552000:7200 733276800:10800 749001600:7200 764726400:10800 780451200:7200 796176000:10800 811900800:7200 828230400:10800 846374400:7200 859680000:10800 877824000:7200 891129600:10800 909277200:7200 922582800:10800 941331600:7200; 2002 7200 10800 3.5.0.10800 10.5.0.14400"),
  ("Europe/Tirane",
   "4760 -1767230360:3600 -932346000:7200 -857257200:3600 -844556400:7200 -843519600:3600 136854000:7200 149896800:3600 168130800:7200 181432800:3600 199839600:7200 213141600:3600 231894000:7200 244591200:3600 263257200:7200 276040800:3600 294706800:7200 307490400:3600 326156400:7200 339458400:3600 357087600:7200 370389600:3600 389142000:7200 402444000:3600 419468400:7200 433807200:3600 449622000:7200 465354000:3600 481078800:7200 496803600:3600 512528400:7200 528253200:3600 543978000:7200 559702800:3600 575427600:7200 591152400:3600 606877200:7200 622602000:3600 638326800:7200 654656400:3600 670381200:7200 686106000:3600 701830800:7200 717555600:3600 733280400:7200 749005200:3600 764730000:7200 780454800:3600 796179600:7200 811904400:3600; 1996 3600 7200 3.5.0.7200 10.5.0.10800"),
  ("Europe/Ulyanovsk",
   "11616 -1593820800:10800 -1247540400:14400 354916800:18000 370724400:14400 386452800:18000 402260400:14400 417988800:18000 433796400:14400 449611200:18000 465343200:14400 481068000:18000 496792800:14400 512517600:18000 528242400:14400 543967200:18000 559692000:14400 575416800:18000 591141600:14400 622594800:10800 638319600:14400 654649200:10800 686102400:7200 695779200:10800 701823600:14400 717548400:10800 733273200:14400 748998000:10800 764722800:14400 780447600:10800 796172400:14400 811897200:10800 828226800:14400 846370800:10800 859676400:14400 877820400:10800 891126000:14400 909270000:10800 922575600:14400 941324400:10800 954025200:14400 972774000:10800 985474800:14400 1004223600:10800 1017529200:14400 1035673200:10800 1048978800:14400 1067122800:10800 1080428400:14400 1099177200:10800 1111878000:14400 1130626800:10800 1143327600:14400 1162076400:10800 1174777200:14400 1193526000:10800 1206831600:14400 1224975600:10800 1238281200:14400 1256425200:10800 1269730800:14400 1288479600:10800 1301180400:14400 1414274400:10800 1459033200:14400"),
  ("Europe/Vienna",
   "3921 -2422055121:3600 -1693706400:7200 -1680483600:3600 -1663455600:7200 -1650150000:3600 -1632006000:7200 -1618700400:3600 -1569711600:7200 -1555801200:3600 -938905200:7200 -857257200:3600 -844556400:7200 -828226800:3600 -812502000:7200 -796777200:3600 -781052400:7200 -780188400:3600 -748479600:7200 -733273200:3600 -717634800:7200 -701910000:3600 -684975600:7200 -670460400:3600 323823600:7200 338940000:3600 354675600:7200 370400400:3600 386125200:7200 401850000:3600 417574800:7200 433299600:3600 449024400:7200 465354000:3600 481078800:7200 496803600:3600 512528400:7200 528253200:3600 543978000:7200 559702800:3600 575427600:7200 591152400:3600 606877200:7200 622602000:3600 638326800:7200 654656400:3600 670381200:7200 686106000:3600 701830800:7200 717555600:3600 733280400:7200 749005200:3600 764730000:7200 780454800:3600 796179600:7200 811904400:3600; 1996 3600 7200 3.5.0.7200 10.5.0.10800"),
  ("Europe/Vilnius",
   "6076 -2840146876:5040 -1672536240:5736 -1585100136:3600 -1561251600:7200 -1553565600:3600 -928198800:10800 -900126000:7200 -857257200:3600 -844556400:7200 -828226800:3600 -812502000:7200 -802144800:10800 354920400:14400 370728000:10800 386456400:14400 402264000:10800 417992400:14400 433800000:10800 449614800:14400 465346800:10800 481071600:14400 496796400:10800 512521200:14400 528246000:10800 543970800:14400 559695600:10800 575420400:14400 591145200:10800 622598400:7200 638323200:10800 654652800:7200 670377600:10800 686102400:7200 701827200:10800 717552000:7200 733276800:10800 749001600:7200 764726400:10800 780451200:7200 796176000:10800 811900800:7200 828230400:10800 846374400:7200 859680000:10800 877824000:7200 909277200:3600 922582800:7200; 2003 7200 10800 3.5.0.10800 10.5.0.14400"),
  ("Europe/Volgograd",
   "10660 -1577761060:10800 -1247540400:14400 354916800:18000 370724400:14400 386452800:18000 402260400:14400 417988800:18000 433796400:14400 449611200:18000 465343200:14400 481068000:18000 496792800:14400 512517600:18000 528242400:14400 543967200:18000 559692000:14400 591145200:10800 606870000:14400 622594800:10800 638319600:14400 654649200:10800 670374000:14400 717548400:10800 733273200:14400 748998000:10800 764722800:14400 780447600:10800 796172400:14400 811897200:10800 828226800:14400 846370800:10800 859676400:14400 877820400:10800 891126000:14400 909270000:10800 922575600:14400 941324400:10800 954025200:14400 972774000:10800 985474800:14400 1004223600:10800 1017529200:14400 1035673200:10800 1048978800:14400 1067122800:10800 1080428400:14400 1099177200:10800 1111878000:14400 1130626800:10800 1143327600:14400 1162076400:10800 1174777200:14400 1193526000:10800 1206831600:14400 1224975600:10800 1238281200:14400 1256425200:10800 1269730800:14400 1288479600:10800 1301180400:14400 1414274400:10800 1540681200:14400 1609020000:10800"),
  ("Europe/Warsaw",
   "5040 -1717032240:3600 -1693706400:7200 -1680483600:3600 -1663455600:7200 -1650150000:3600 -1632006000:7200 -1600473600:10800 -1587168000:7200 -1501725600:3600 -931734000:7200 -857257200:3600 -844556400:7200 -828226800:3600 -812502000:7200 -796608000:3600 -778726800:7200 -762660000:3600 -748486800:7200 -733273200:3600 -715215600:7200 -701910000:3600 -684975600:7200 -670460400:3600 -654130800:7200 -639010800:3600 -397094400:7200 -386812800:3600 -371088000:7200 -355363200:3600 -334195200:7200 -323308800:3600 -307584000:7200 -291859200:3600 -271296000:7200 -260409600:3600 -239846400:7200 -228960000:3600 -208396800:7200 -197510400:3600 -176342400:7200 -166060800:3600 228873600:7200 243993600:3600 260323200:7200 276048000:3600 291772800:7200 307497600:3600 323827200:7200 338947200:3600 354672000:7200 370396800:3600 386121600:7200 401846400:3600 417571200:7200 433296000:3600 449020800:7200 465350400:3600 481075200:7200 496800000:3600 512524800:7200 528249600:3600 543974400:7200 559699200:3600 575427600:7200 591152400:3600 606877200:7200 622602000:3600 638326800:7200 654656400:3600 670381200:7200 686106000:3600 701830800:7200 717555600:3600 733280400:7200 749005200:3600 764730000:7200 780454800:3600 796179600:7200 811904400:3600; 1996 3600 7200 3.5.0.7200 10.5.0.10800"),
  ("Europe/Zurich",
   "2048 -3675198848:1786 -2385246586:3600 -904435200:7200 -891129600:3600 -872985600:7200 -859680000:3600 354675600:7200 370400400:3600 386125200:7200 401850000:3600 417574800:7200 433299600:3600 449024400:7200 465354000:3600 481078800:7200 496803600:3600 512528400:7200 528253200:3600 543978000:7200 559702800:3600 575427600:7200 591152400:3600 606877200:7200 622602000:3600 638326800:7200 654656400:3600 670381200:7200 686106000:3600 701830800:7200 717555600:3600 733280400:7200 749005200:3600 764730000:7200 780454800:3600 796179600:7200 811904400:3600; 1996 3600 7200 3.5.0.7200 10.5.0.10800")]

end Presence.Zone
