import MailIngest.Text.Charset.Basic

/-!
# The Chinese national character sets

GB 2312 as a 94 × 94 table; the pairs GBK adds to it, by first byte from 0x81 and second byte
from 0x40; the pairs GB 18030 adds to GBK (mostly the private use areas); and the ranges by
which the four-byte sequences of GB 18030 below U+10000 count through the characters that the
two-byte sequences leave out (`gb18030Ranges`: the sequence number where each range starts
and its first character).
-/

namespace MailIngest.Text.Charset

def gb2312Rows : List String :=
  ["\u3000-。・ˉˇ¨〃々―～‖…‘’“”〔〕〈-』〖〗【】±×÷∶∧∨∑∏∪∩∈∷√⊥∥∠⌒⊙∫∮≡≌≈∽∝≠≮≯≤≥∞∵∴♂♀°′″℃＄¤￠￡‰§№☆★○●◎◇◆□■△▲※→←↑↓〓",
   "*16⒈-⒛⑴-⒇①-⑩*02㈠-㈩*02Ⅰ-Ⅻ",
   "！-＃￥％-｝￣",
   "ぁ-ん",
   "ァ-ヶ",
   "Α-ΡΣ-Ω*08α-ρσ-ω",
   "А-ЕЁЖ-Я*15а-еёж-я",
   "āáǎàēéěèīíǐìōóǒòūúǔùǖǘǚǜüê*10ㄅ-ㄩ",
   "*03─-╋",
   "",
   "",
   "",
   "",
   "",
   "",
   "啊阿埃挨哎唉哀皑癌蔼矮艾碍爱隘鞍氨安俺按暗岸胺案肮昂盎凹敖熬翱袄傲奥懊澳芭捌扒叭吧笆八疤巴拔跋靶把耙坝霸罢爸白柏百摆佰败拜稗斑班搬扳般颁板版扮拌伴瓣半办绊邦帮梆榜膀绑棒磅蚌镑傍谤苞胞包褒剥",
   "薄雹保堡饱宝抱报暴豹鲍爆杯碑悲卑北辈背贝钡倍狈备惫焙被奔苯本笨崩绷甭泵蹦迸逼鼻比鄙笔彼碧蓖蔽毕毙毖币庇痹闭敝弊必辟壁臂避陛鞭边编贬扁便变卞辨辩辫遍标彪膘表鳖憋别瘪彬斌濒滨宾摈兵冰柄丙秉饼炳",
   "病并玻菠播拨钵波博勃搏铂箔伯帛舶脖膊渤泊驳捕卜哺补埠不布步簿部怖擦猜裁材才财睬踩采彩菜蔡餐参蚕残惭惨灿苍舱仓沧藏操糙槽曹草厕策侧册测层蹭插叉茬茶查碴搽察岔差诧拆柴豺搀掺蝉馋谗缠铲产阐颤昌猖",
   "场尝常长偿肠厂敞畅唱倡超抄钞朝嘲潮巢吵炒车扯撤掣彻澈郴臣辰尘晨忱沉陈趁衬撑称城橙成呈乘程惩澄诚承逞骋秤吃痴持匙池迟弛驰耻齿侈尺赤翅斥炽充冲虫崇宠抽酬畴踌稠愁筹仇绸瞅丑臭初出橱厨躇锄雏滁除楚",
   "础储矗搐触处揣川穿椽传船喘串疮窗幢床闯创吹炊捶锤垂春椿醇唇淳纯蠢戳绰疵茨磁雌辞慈瓷词此刺赐次聪葱囱匆从丛凑粗醋簇促蹿篡窜摧崔催脆瘁粹淬翠村存寸磋撮搓措挫错搭达答瘩打大呆歹傣戴带殆代贷袋待逮",
   "怠耽担丹单郸掸胆旦氮但惮淡诞弹蛋当挡党荡档刀捣蹈倒岛祷导到稻悼道盗德得的蹬灯登等瞪凳邓堤低滴迪敌笛狄涤翟嫡抵底地蒂第帝弟递缔颠掂滇碘点典靛垫电佃甸店惦奠淀殿碉叼雕凋刁掉吊钓调跌爹碟蝶迭谍叠",
   "丁盯叮钉顶鼎锭定订丢东冬董懂动栋侗恫冻洞兜抖斗陡豆逗痘都督毒犊独读堵睹赌杜镀肚度渡妒端短锻段断缎堆兑队对墩吨蹲敦顿囤钝盾遁掇哆多夺垛躲朵跺舵剁惰堕蛾峨鹅俄额讹娥恶厄扼遏鄂饿恩而儿耳尔饵洱二",
   "贰发罚筏伐乏阀法珐藩帆番翻樊矾钒繁凡烦反返范贩犯饭泛坊芳方肪房防妨仿访纺放菲非啡飞肥匪诽吠肺废沸费芬酚吩氛分纷坟焚汾粉奋份忿愤粪丰封枫蜂峰锋风疯烽逢冯缝讽奉凤佛否夫敷肤孵扶拂辐幅氟符伏俘服",
   "浮涪福袱弗甫抚辅俯釜斧脯腑府腐赴副覆赋复傅付阜父腹负富讣附妇缚咐噶嘎该改概钙盖溉干甘杆柑竿肝赶感秆敢赣冈刚钢缸肛纲岗港杠篙皋高膏羔糕搞镐稿告哥歌搁戈鸽胳疙割革葛格蛤阁隔铬个各给根跟耕更庚羹",
   "埂耿梗工攻功恭龚供躬公宫弓巩汞拱贡共钩勾沟苟狗垢构购够辜菇咕箍估沽孤姑鼓古蛊骨谷股故顾固雇刮瓜剐寡挂褂乖拐怪棺关官冠观管馆罐惯灌贯光广逛瑰规圭硅归龟闺轨鬼诡癸桂柜跪贵刽辊滚棍锅郭国果裹过哈",
   "骸孩海氦亥害骇酣憨邯韩含涵寒函喊罕翰撼捍旱憾悍焊汗汉夯杭航壕嚎豪毫郝好耗号浩呵喝荷菏核禾和何合盒貉阂河涸赫褐鹤贺嘿黑痕很狠恨哼亨横衡恒轰哄烘虹鸿洪宏弘红喉侯猴吼厚候后呼乎忽瑚壶葫胡蝴狐糊湖",
   "弧虎唬护互沪户花哗华猾滑画划化话槐徊怀淮坏欢环桓还缓换患唤痪豢焕涣宦幻荒慌黄磺蝗簧皇凰惶煌晃幌恍谎灰挥辉徽恢蛔回毁悔慧卉惠晦贿秽会烩汇讳诲绘荤昏婚魂浑混豁活伙火获或惑霍货祸击圾基机畸稽积箕",
   "肌饥迹激讥鸡姬绩缉吉极棘辑籍集及急疾汲即嫉级挤几脊己蓟技冀季伎祭剂悸济寄寂计记既忌际妓继纪嘉枷夹佳家加荚颊贾甲钾假稼价架驾嫁歼监坚尖笺间煎兼肩艰奸缄茧检柬碱硷拣捡简俭剪减荐槛鉴践贱见键箭件",
   "健舰剑饯渐溅涧建僵姜将浆江疆蒋桨奖讲匠酱降蕉椒礁焦胶交郊浇骄娇嚼搅铰矫侥脚狡角饺缴绞剿教酵轿较叫窖揭接皆秸街阶截劫节桔杰捷睫竭洁结解姐戒藉芥界借介疥诫届巾筋斤金今津襟紧锦仅谨进靳晋禁近烬浸",
   "尽劲荆兢茎睛晶鲸京惊精粳经井警景颈静境敬镜径痉靖竟竞净炯窘揪究纠玖韭久灸九酒厩救旧臼舅咎就疚鞠拘狙疽居驹菊局咀矩举沮聚拒据巨具距踞锯俱句惧炬剧捐鹃娟倦眷卷绢撅攫抉掘倔爵觉决诀绝均菌钧军君峻",
   "俊竣浚郡骏喀咖卡咯开揩楷凯慨刊堪勘坎砍看康慷糠扛抗亢炕考拷烤靠坷苛柯棵磕颗科壳咳可渴克刻客课肯啃垦恳坑吭空恐孔控抠口扣寇枯哭窟苦酷库裤夸垮挎跨胯块筷侩快宽款匡筐狂框矿眶旷况亏盔岿窥葵奎魁傀",
   "馈愧溃坤昆捆困括扩廓阔垃拉喇蜡腊辣啦莱来赖蓝婪栏拦篮阑兰澜谰揽览懒缆烂滥琅榔狼廊郎朗浪捞劳牢老佬姥酪烙涝勒乐雷镭蕾磊累儡垒擂肋类泪棱楞冷厘梨犁黎篱狸离漓理李里鲤礼莉荔吏栗丽厉励砾历利傈例俐",
   "痢立粒沥隶力璃哩俩联莲连镰廉怜涟帘敛脸链恋炼练粮凉梁粱良两辆量晾亮谅撩聊僚疗燎寥辽潦了撂镣廖料列裂烈劣猎琳林磷霖临邻鳞淋凛赁吝拎玲菱零龄铃伶羚凌灵陵岭领另令溜琉榴硫馏留刘瘤流柳六龙聋咙笼窿",
   "隆垄拢陇楼娄搂篓漏陋芦卢颅庐炉掳卤虏鲁麓碌露路赂鹿潞禄录陆戮驴吕铝侣旅履屡缕虑氯律率滤绿峦挛孪滦卵乱掠略抡轮伦仑沦纶论萝螺罗逻锣箩骡裸落洛骆络妈麻玛码蚂马骂嘛吗埋买麦卖迈脉瞒馒蛮满蔓曼慢漫",
   "谩芒茫盲氓忙莽猫茅锚毛矛铆卯茂冒帽貌贸么玫枚梅酶霉煤没眉媒镁每美昧寐妹媚门闷们萌蒙檬盟锰猛梦孟眯醚靡糜迷谜弥米秘觅泌蜜密幂棉眠绵冕免勉娩缅面苗描瞄藐秒渺庙妙蔑灭民抿皿敏悯闽明螟鸣铭名命谬摸",
   "摹蘑模膜磨摩魔抹末莫墨默沫漠寞陌谋牟某拇牡亩姆母墓暮幕募慕木目睦牧穆拿哪呐钠那娜纳氖乃奶耐奈南男难囊挠脑恼闹淖呢馁内嫩能妮霓倪泥尼拟你匿腻逆溺蔫拈年碾撵捻念娘酿鸟尿捏聂孽啮镊镍涅您柠狞凝宁",
   "拧泞牛扭钮纽脓浓农弄奴努怒女暖虐疟挪懦糯诺哦欧鸥殴藕呕偶沤啪趴爬帕怕琶拍排牌徘湃派攀潘盘磐盼畔判叛乓庞旁耪胖抛咆刨炮袍跑泡呸胚培裴赔陪配佩沛喷盆砰抨烹澎彭蓬棚硼篷膨朋鹏捧碰坯砒霹批披劈琵毗",
   "啤脾疲皮匹痞僻屁譬篇偏片骗飘漂瓢票撇瞥拼频贫品聘乒坪苹萍平凭瓶评屏坡泼颇婆破魄迫粕剖扑铺仆莆葡菩蒲埔朴圃普浦谱曝瀑期欺栖戚妻七凄漆柒沏其棋奇歧畦崎脐齐旗祈祁骑起岂乞企启契砌器气迄弃汽泣讫掐",
   "恰洽牵扦钎铅千迁签仟谦乾黔钱钳前潜遣浅谴堑嵌欠歉枪呛腔羌墙蔷强抢橇锹敲悄桥瞧乔侨巧鞘撬翘峭俏窍切茄且怯窃钦侵亲秦琴勤芹擒禽寝沁青轻氢倾卿清擎晴氰情顷请庆琼穷秋丘邱球求囚酋泅趋区蛆曲躯屈驱渠",
   "取娶龋趣去圈颧权醛泉全痊拳犬券劝缺炔瘸却鹊榷确雀裙群然燃冉染瓤壤攘嚷让饶扰绕惹热壬仁人忍韧任认刃妊纫扔仍日戎茸蓉荣融熔溶容绒冗揉柔肉茹蠕儒孺如辱乳汝入褥软阮蕊瑞锐闰润若弱撒洒萨腮鳃塞赛三叁",
   "伞散桑嗓丧搔骚扫嫂瑟色涩森僧莎砂杀刹沙纱傻啥煞筛晒珊苫杉山删煽衫闪陕擅赡膳善汕扇缮墒伤商赏晌上尚裳梢捎稍烧芍勺韶少哨邵绍奢赊蛇舌舍赦摄射慑涉社设砷申呻伸身深娠绅神沈审婶甚肾慎渗声生甥牲升绳",
   "省盛剩胜圣师失狮施湿诗尸虱十石拾时什食蚀实识史矢使屎驶始式示士世柿事拭誓逝势是嗜噬适仕侍释饰氏市恃室视试收手首守寿授售受瘦兽蔬枢梳殊抒输叔舒淑疏书赎孰熟薯暑曙署蜀黍鼠属术述树束戍竖墅庶数漱",
   "恕刷耍摔衰甩帅栓拴霜双爽谁水睡税吮瞬顺舜说硕朔烁斯撕嘶思私司丝死肆寺嗣四伺似饲巳松耸怂颂送宋讼诵搜艘擞嗽苏酥俗素速粟僳塑溯宿诉肃酸蒜算虽隋随绥髓碎岁穗遂隧祟孙损笋蓑梭唆缩琐索锁所塌他它她塔",
   "獭挞蹋踏胎苔抬台泰酞太态汰坍摊贪瘫滩坛檀痰潭谭谈坦毯袒碳探叹炭汤塘搪堂棠膛唐糖倘躺淌趟烫掏涛滔绦萄桃逃淘陶讨套特藤腾疼誊梯剔踢锑提题蹄啼体替嚏惕涕剃屉天添填田甜恬舔腆挑条迢眺跳贴铁帖厅听烃",
   "汀廷停亭庭挺艇通桐酮瞳同铜彤童桶捅筒统痛偷投头透凸秃突图徒途涂屠土吐兔湍团推颓腿蜕褪退吞屯臀拖托脱鸵陀驮驼椭妥拓唾挖哇蛙洼娃瓦袜歪外豌弯湾玩顽丸烷完碗挽晚皖惋宛婉万腕汪王亡枉网往旺望忘妄威",
   "巍微危韦违桅围唯惟为潍维苇萎委伟伪尾纬未蔚味畏胃喂魏位渭谓尉慰卫瘟温蚊文闻纹吻稳紊问嗡翁瓮挝蜗涡窝我斡卧握沃巫呜钨乌污诬屋无芜梧吾吴毋武五捂午舞伍侮坞戊雾晤物勿务悟误昔熙析西硒矽晰嘻吸锡牺",
   "稀息希悉膝夕惜熄烯溪汐犀檄袭席习媳喜铣洗系隙戏细瞎虾匣霞辖暇峡侠狭下厦夏吓掀锨先仙鲜纤咸贤衔舷闲涎弦嫌显险现献县腺馅羡宪陷限线相厢镶香箱襄湘乡翔祥详想响享项巷橡像向象萧硝霄削哮嚣销消宵淆晓",
   "小孝校肖啸笑效楔些歇蝎鞋协挟携邪斜胁谐写械卸蟹懈泄泻谢屑薪芯锌欣辛新忻心信衅星腥猩惺兴刑型形邢行醒幸杏性姓兄凶胸匈汹雄熊休修羞朽嗅锈秀袖绣墟戌需虚嘘须徐许蓄酗叙旭序畜恤絮婿绪续轩喧宣悬旋玄",
   "选癣眩绚靴薛学穴雪血勋熏循旬询寻驯巡殉汛训讯逊迅压押鸦鸭呀丫芽牙蚜崖衙涯雅哑亚讶焉咽阉烟淹盐严研蜒岩延言颜阎炎沿奄掩眼衍演艳堰燕厌砚雁唁彦焰宴谚验殃央鸯秧杨扬佯疡羊洋阳氧仰痒养样漾邀腰妖瑶",
   "摇尧遥窑谣姚咬舀药要耀椰噎耶爷野冶也页掖业叶曳腋夜液一壹医揖铱依伊衣颐夷遗移仪胰疑沂宜姨彝椅蚁倚已乙矣以艺抑易邑屹亿役臆逸肄疫亦裔意毅忆义益溢诣议谊译异翼翌绎茵荫因殷音阴姻吟银淫寅饮尹引隐",
   "印英樱婴鹰应缨莹萤营荧蝇迎赢盈影颖硬映哟拥佣臃痈庸雍踊蛹咏泳涌永恿勇用幽优悠忧尤由邮铀犹油游酉有友右佑釉诱又幼迂淤于盂榆虞愚舆余俞逾鱼愉渝渔隅予娱雨与屿禹宇语羽玉域芋郁吁遇喻峪御愈欲狱育誉",
   "浴寓裕预豫驭鸳渊冤元垣袁原援辕园员圆猿源缘远苑愿怨院曰约越跃钥岳粤月悦阅耘云郧匀陨允运蕴酝晕韵孕匝砸杂栽哉灾宰载再在咱攒暂赞赃脏葬遭糟凿藻枣早澡蚤躁噪造皂灶燥责择则泽贼怎增憎曾赠扎喳渣札轧",
   "铡闸眨栅榨咋乍炸诈摘斋宅窄债寨瞻毡詹粘沾盏斩辗崭展蘸栈占战站湛绽樟章彰漳张掌涨杖丈帐账仗胀瘴障招昭找沼赵照罩兆肇召遮折哲蛰辙者锗蔗这浙珍斟真甄砧臻贞针侦枕疹诊震振镇阵蒸挣睁征狰争怔整拯正政",
   "帧症郑证芝枝支吱蜘知肢脂汁之织职直植殖执值侄址指止趾只旨纸志挚掷至致置帜峙制智秩稚质炙痔滞治窒中盅忠钟衷终种肿重仲众舟周州洲诌粥轴肘帚咒皱宙昼骤珠株蛛朱猪诸诛逐竹烛煮拄瞩嘱主著柱助蛀贮铸筑",
   "住注祝驻抓爪拽专砖转撰赚篆桩庄装妆撞壮状椎锥追赘坠缀谆准捉拙卓桌琢茁酌啄着灼浊兹咨资姿滋淄孜紫仔籽滓子自渍字鬃棕踪宗综总纵邹走奏揍租足卒族祖诅阻组钻纂嘴醉最罪尊遵昨左佐柞做作坐座",
   "亍丌兀丐廿卅丕亘丞鬲孬噩丨禺丿匕乇夭爻卮氐囟胤馗毓睾鼗丶亟鼐乜乩亓芈孛啬嘏仄厍厝厣厥厮靥赝匚叵匦匮匾赜卦卣刂刈刎刭刳刿剀剌剞剡剜蒯剽劂劁劐劓冂罔亻仃仉仂仨仡仫仞伛仳伢佤仵伥伧伉伫佞佧攸佚佝",
   "佟佗伲伽佶佴侑侉侃侏佾佻侪佼侬侔俦俨俪俅俚俣俜俑俟俸倩偌俳倬倏倮倭俾倜倌倥倨偾偃偕偈偎偬偻傥傧傩傺僖儆僭僬僦僮儇儋仝氽佘佥俎龠汆籴兮巽黉馘冁夔勹匍訇匐凫夙兕亠兖亳衮袤亵脔裒禀嬴蠃羸冫冱冽冼",
   "凇冖冢冥讠讦讧讪讴讵讷诂诃诋诏诎诒-诔诖诘诙诜诟诠诤诨诩诮诰诳诶诹诼诿谀谂谄谇谌谏谑谒谔-谖谙谛谘谝谟-谡谥谧谪谫谮谯谲谳谵谶卩卺阝阢阡阱阪阽阼陂陉陔陟陧陬陲陴隈隍隗隰邗邛邝邙邬邡邴邳邶邺",
   "邸邰郏郅邾郐郄郇郓郦郢郜郗郛郫郯郾鄄鄢鄞鄣鄱鄯鄹酃酆刍奂劢劬劭劾哿勐勖勰叟燮矍廴凵凼鬯厶弁畚巯坌垩垡塾墼壅壑圩圬圪圳圹圮圯坜圻坂坩垅坫垆坼坻坨坭坶坳垭垤垌垲埏垧垴垓垠埕埘埚埙埒垸埴埯埸埤埝",
   "堋堍埽埭堀堞堙塄堠塥塬墁墉墚墀馨鼙懿艹艽艿芏芊芨芄芎芑芗芙芫芸芾芰苈苊苣芘芷芮苋苌苁芩芴芡芪芟苄苎芤苡茉苷苤茏茇苜苴苒苘茌苻苓茑茚茆茔茕苠苕茜荑荛荜茈莒茼茴茱莛荞茯荏荇荃荟荀茗荠茭茺茳荦荥",
   "荨茛荩荬荪荭荮莰荸莳莴莠莪莓莜莅荼莶莩荽莸荻莘莞莨莺莼菁萁菥菘堇萘萋菝菽菖萜萸萑萆菔菟萏萃菸菹菪菅菀萦菰菡葜葑葚葙葳蒇蒈葺蒉葸萼葆葩葶蒌蒎萱葭蓁蓍蓐蓦蒽蓓蓊蒿蒺蓠蒡蒹蒴蒗蓥蓣蔌甍蔸蓰蔹蔟蔺",
   "蕖蔻蓿蓼蕙蕈蕨蕤蕞蕺瞢蕃蕲蕻薤薨薇薏蕹薮薜薅薹薷薰藓藁藜藿蘧蘅蘩蘖蘼廾弈夼奁耷奕奚奘匏尢尥尬尴扌扪抟抻拊拚拗拮挢拶挹捋捃掭揶捱捺掎掴捭掬掊捩掮掼揲揸揠揿揄揞揎摒揆掾摅摁搋搛搠搌搦搡摞撄摭撖",
   "摺撷撸撙撺擀擐擗擤擢攉攥攮弋忒甙弑卟叱叽叩叨叻吒吖吆呋呒-呔呖呃吡呗呙吣吲咂咔呷呱呤咚咛咄呶呦咝哐咭哂咴哒咧咦哓哔呲咣哕咻咿哌哙哚哜咩咪咤哝哏哞唛哧唠哽唔哳唢唣唏唑唧唪啧喏喵啉啭啁啕唿啐唼",
   "唷啖啵-啷唳唰啜喋嗒喃喱喹喈喁喟啾嗖喑啻嗟喽喾喔喙嗪嗷嗉嘟嗑嗫嗬嗔嗦嗝嗄嗯嗥嗲嗳嗌嗍嗨嗵嗤辔嘞嘈嘌嘁嘤嘣嗾嘀嘧嘭噘嘹噗嘬噍噢噙噜噌噔嚆噤噱噫噻噼嚅嚓嚯囔囗囝囡囵囫囹囿圄圊圉圜帏帙帔帑帱帻帼",
   "帷幄幔幛幞幡岌屺岍岐岖岈岘岙岑岚岜岵岢岽岬岫岱岣峁岷峄峒峤峋峥崂崃崧崦崮崤崞崆崛嵘崾崴崽嵬嵛嵯嵝嵫嵋嵊嵩嵴嶂嶙嶝豳嶷巅彳彷徂徇徉後徕徙徜徨徭徵徼衢彡犭犰犴犷犸狃狁狎狍狒狨狯狩狲狴狷猁狳猃狺",
   "狻猗猓猡猊猞猝猕猢猹猥猬猸猱獐獍獗獠獬獯獾舛夥飧夤夂饣饧-饬饴饷饽馀馄馇馊馍馐馑馓-馕庀庑庋庖庥庠庹庵庾庳赓廒廑廛廨廪膺忄忉忖忏怃忮怄忡忤忾怅怆忪忭忸怙怵怦怛怏怍怩怫怊怿怡恸恹恻恺恂",
   "恪恽悖悚悭悝悃悒悌悛惬悻悱惝惘惆惚悴愠愦愕愣惴愀愎愫慊慵憬憔憧憷懔懵忝隳闩闫闱闳闵闶闼闾阃阄阆阈阊-阍阏阒阕-阗阙阚丬爿戕氵汔汜汊沣沅沐沔沌汨汩汴汶沆沩泐泔沭泷泸泱泗沲泠泖泺泫泮沱泓泯泾",
   "洹洧洌浃浈洇洄洙洎洫浍洮洵洚浏浒浔洳涑浯涞涠浞涓涔浜浠浼浣渚淇淅淞渎涿淠渑淦淝淙渖涫渌涮渫湮湎湫溲湟溆湓湔渲渥湄滟溱溘滠漭滢溥溧溽溻溷滗溴滏溏滂溟潢潆潇漤漕滹漯漶潋潴漪漉漩澉澍澌潸潲潼潺濑",
   "濉澧澹澶濂濡濮濞濠濯瀚瀣瀛瀹瀵灏灞宀宄宕宓宥宸甯骞搴寤寮褰寰蹇謇辶迓迕迥迮迤迩迦迳迨逅逄逋逦逑逍逖逡逵逶逭逯遄遑遒遐遨遘遢遛暹遴遽邂邈邃邋彐彗彖彘尻咫屐屙孱屣屦羼弪弩弭艴弼鬻屮妁妃妍妩妪妣",
   "妗姊妫妞妤姒妲妯姗妾娅娆姝娈姣姘姹娌娉娲娴娑娣娓婀婧婊婕娼婢婵胬媪媛婷婺媾嫫媲嫒嫔媸嫠嫣嫱嫖嫦嫘嫜嬉嬗嬖嬲嬷孀尕尜孚孥孳孑孓孢驵驷驸驺驿驽骀骁骅骈骊骐骒骓骖骘骛-骝骟骠骢骣骥骧纟纡纣纥纨纩",
   "纭纰纾绀-绂绉绋绌绐绔绗绛绠绡绨绫绮绯绱绲缍绶绺绻绾缁-缃缇缈缋缌缏缑缒缗缙缜缛缟缡-缧缪-缭缯-缳缵幺畿巛甾邕玎玑玮玢玟珏珂珑玷玳珀珉珈珥珙顼琊珩珧珞玺珲琏琪瑛琦琥琨琰琮琬",
   "琛琚瑁瑜瑗瑕瑙瑷瑭瑾璜璎璀璁璇璋璞璨璩璐璧瓒璺韪-韬杌杓杞杈杩枥枇杪杳枘枧杵枨枞枭枋杷杼柰栉柘栊柩枰栌柙枵柚枳柝栀柃枸柢栎柁柽栲栳桠桡桎桢桄桤梃栝桕桦桁桧桀栾桊桉栩梵梏桴桷梓桫棂楮棼椟椠棹",
   "椤棰椋椁楗棣椐楱椹楠楂楝榄楫榀榘楸椴槌榇榈槎榉楦楣楹榛榧榻榫榭槔榱槁槊槟榕槠榍槿樯槭樗樘橥槲橄樾檠橐橛樵檎橹樽樨橘橼檑檐檩檗檫猷獒殁殂殇殄殒殓殍殚殛殡殪轫轭轱-轳轵轶轸轷轹轺轼轾辁辂辄辇辋",
   "辍-辏辘辚軎戋戗戛戟戢戡戥戤戬臧瓯瓴瓿甏甑甓攴旮-旰昊昙杲昃昕昀炅曷昝昴昱昶昵耆晟晔晁晏晖晡晗晷暄暌暧暝暾曛曜曦曩贲贳贶贻贽赀赅赆赈赉赇赍赕赙觇觊-觌觎-觑牮犟牝牦牯牾牿犄犋犍犏犒挈挲掰",
   "搿擘耄毪毳毽毵毹氅氇氆氍氕氘-氚氡氩氤氪氲攵敕敫牍牒牖爰虢刖肟肜肓肼朊肽肱肫肭肴肷胧-胪胛胂胄胙胍胗朐胝胫胱胴胭脍脎胲胼朕脒豚脶脞脬脘脲腈腌腓腴腙腚腱腠腩腼腽腭腧塍媵膈膂膑滕膣膪臌朦臊膻",
   "臁膦欤欷欹歃歆歙飑-飓飕飙飚殳彀毂觳斐齑斓於旆旄旃旌旎旒旖炀炜炖炝炻烀炷炫炱烨烊焐焓焖焯焱煳煜煨煅煲煊煸煺熘熳熵熨熠燠燔燧燹爝爨灬焘煦熹戾戽扃扈扉礻祀祆祉祛祜祓祚祢祗祠祯祧祺禅禊禚禧禳忑忐",
   "怼恝恚恧恁恙恣悫愆愍慝憩憝懋懑戆肀聿沓泶淼矶矸砀砉砗砘砑斫砭砜砝砹-砻砟砼砥砬砣砩硎硭硖硗砦硐硇硌硪碛碓碚碇碜碡碣碲碹碥磔磙磉磬磲礅磴礓礤礞礴龛黹黻黼盱眄眍盹眇眈眚眢眙眭眦眵眸睐睑睇睃睚睨",
   "睢睥睿瞍睽瞀瞌瞑瞟瞠瞰瞵瞽町畀畎畋畈畛畲畹疃罘罡罟詈罨罴罱罹羁罾盍盥蠲钅-钇钋钊钌钍钏钐钔钗钕钚-钜钣钤钫钪钭钬钯钰钲钴钶-钺钼钽钿铄铈-铎铐-铒铕-铗铙铘铛铞-铠铢铤铥铧铨铪",
   "铩铫铮铯铳-铵铷铹铼铽铿锃锂锆锇锉锊锍-锏锒-锖锘锛锝-锟锢锪锫锩锬锱锲锴锶-锸锼锾锿镂锵镄-镆镉镌镎镏镒-镔镖-镙镛镞镟镝镡镢镤-镬镯镱-镳锺矧矬雉秕秭秣秫稆嵇稃稂稞稔",
   "稹稷穑黏馥穰皈皎皓皙皤瓞瓠甬鸠鸢鸨-鸬鸲鸱鸶鸸鸷鸹鸺鸾鹁鹂鹄鹆-鹉鹋鹌鹎鹑鹕鹗鹚-鹜鹞鹣鹦-鹬鹱鹭鹳疒疔疖疠疝疬疣疳疴疸痄疱疰痃痂痖痍痣痨痦痤痫痧瘃痱痼痿瘐瘀瘅瘌瘗瘊瘥瘘瘕瘙",
   "瘛瘼瘢瘠癀瘭瘰瘿瘵癃瘾瘳癍癞癔癜癖癫癯翊竦穸穹窀窆窈窕窦窠窬窨窭窳衤衩衲衽衿袂袢裆袷袼裉裢裎裣裥裱褚裼裨裾裰褡褙褓褛褊褴褫褶襁襦襻疋胥皲皴矜耒耔耖耜耠耢耥-耧耩耨耱耋耵聃聆聍聒聩聱覃顸颀颃",
   "颉颌颍颏颔颚颛颞颟颡颢颥颦虍虔虬虮虿虺虼虻蚨蚍蚋蚬蚝蚧蚣蚪蚓蚩蚶蛄蚵蛎蚰蚺蚱蚯蛉蛏蚴蛩蛱蛲蛭蛳蛐蜓蛞蛴蛟蛘蛑蜃蜇蛸蜈蜊蜍蜉蜣蜻蜞蜥蜮蜚蜾蝈蜴蜱蜩蜷蜿螂蜢蝽蝾蝻蝠蝰蝌蝮螋蝓蝣蝼蝤蝙蝥螓螯螨蟒",
   "蟆螈螅螭螗螃螫蟥螬螵螳蟋蟓螽蟑蟀蟊蟛蟪蟠蟮蠖蠓蟾蠊蠛蠡蠹蠼缶罂罄罅舐竺竽笈笃笄笕笊笫笏筇笸笪笙笮笱笠笥笤笳笾笞筘筚筅筵筌筝筠筮筻筢筲筱箐箦箧箸箬箝箨箅箪箜箢箫箴篑篁篌篝篚篥篦篪簌篾篼簏簖簋",
   "簟簪簦簸籁籀臾舁舂舄臬衄舡-舣舭舯舨舫舸舻舳舴舾艄艉艋艏艚艟艨衾袅袈裘裟襞羝羟羧羯羰羲籼敉粑粝粜粞粢粲粼粽糁糇糌糍糈糅糗糨艮暨羿翎翕翥翡翦翩翮翳糸絷綦綮繇纛麸麴赳趄趔趑趱赧赭豇豉酊酐酎酏酤",
   "酢酡酰酩酯酽酾酲酴酹醌醅醐醍醑醢醣醪醭-醯醵醴醺豕鹾趸跫踅蹙蹩趵趿趼趺跄跖跗跚跞跎跏跛跆跬跷跸跣跹跻跤踉跽踔踝踟踬踮踣踯踺蹀踹踵踽踱蹉蹁蹂蹑蹒蹊蹰蹶蹼蹯蹴躅躏躔躐躜躞豸貂貊貅貘貔斛觖觞觚觜",
   "觥觫觯訾謦靓雩雳雯霆霁霈霏霎霪霭霰霾龀龃龅-龊龌黾鼋鼍隹隼隽雎雒瞿雠銎銮鋈錾鍪鏊鎏鐾鑫鱿鲂鲅-鲈稣鲋鲎鲐-鲒鲔鲕鲚鲛鲞-鲣鲥-鲩鲫鲭鲮鲰-鲷鲺-鲽鳄-鳇鳊鳋",
   "鳌-鳐鳓-鳕鳗-鳙鳜鳝鳟鳢靼鞅鞑鞒鞔鞯鞫鞣鞲鞴骱骰骷鹘骶骺骼髁髀髅髂髋髌髑魅魃魇魉魈魍魑飨餍餮饕饔髟髡髦髯髫髻髭髹鬈鬏鬓鬟鬣麽麾縻麂麇麈麋麒鏖麝麟黛-黝黠黟黢黩黧黥黪黯鼢鼬鼯鼹鼷鼽鼾齄",
   "",
   "",
   "",
   "",
   "",
   "",
   ""]

def gb2312 : ByteTable := .ofPlane gb2312Rows

/-- The pairs GBK adds to GB 2312, by first byte from 0x81 and second byte from 0x40 to 0xFE. -/
def gbkExtraRows : List String :=
  ["丂丄-丆丏丒丗丟-両丣並丩丮丯丱丳丵丷丼乀-乂乄乆乊乑乕乗乚乛乢-乥乧乨乪-乯乲乴-乽乿-亅亇亊￾亐亖亗亙亜-亞亣亪亯-亱亴亶-亹亼-亾仈仌仏仐仒仚-仜仠仢仦仧仩仭-仯仱仴仸-仺仼仾伀伂-伈伋伌伒-伖伜伝伡伣伨伩伬-伮伱伳伵伷伹伻伾-佂佄佅佇-佌佒佔佖佡佢佦佨佪佫佭佮佱佲併佷-佺佽侀-侂侅-侇侊侌侎侐侒侓侕侖侘-侚侜侞侟価侢",
   "侤侫侭侰-侴侶-侾俀-係俆-俉俋-俍俒-俖俙俛俠俢俤俥俧俫俬俰俲俴-俷俹俻-俽俿-倊￾個倎倐們倓倕-倗倛倝倞倠倢-値倧倫倯-倹倻倽倿-偂偄-偆偉-偋偍偐-偔偖-偙偛偝-偤偦-偫偭-偵偸-偺偼偽傁-傄傆傇傉-傌傎-傢傤傦傪傫傭-傱傳-傹傼",
   "傽-僎僐-僕僗-僙僛-僥僨-僫僯-僲僴僶-僺僼-儅儈￾儉儊儌-儑儓-儠儢-儾兂兇兊兌兎-児兒兓兗-兙兛兝-兡兣兤兦內兩兪兯兲兺兾兿冃冄円冇冊冋冎-冑冓冔冘冚冝-冟冡冣冦-冪冭冮冴冸-冺冾冿凁-凃凅凈凊凍凎凐凒-凗",
   "凘-凚凜凞凟凢凣凥-凪凬凮凱凲凴凷凾刄刅刉刋刌刏刐刓-刕刜刞刟刡-刣別-刧刪刬刯刱刲刴刵刼刾剄-剉剋剎剏剒剓剕剗剘￾剙-剛剝剟剠剢-剤剦剨剫-剮剰剱剳-剼剾劀劃-劇劉-劏劑劒劔-劚劜劤-劧劮-劰労-劽勀-勂勄-勆勈勊勌-勏勑勓-動勗務-勞勠-勣勥-勯勱-勸勻-勽匁-匄匇匉-匌匎",
   "匑-匔匘匛匜匞匟匢匤匥匧-匩匫-匭匯-匸匼匽區卂卄卆卋-卍卐協単卙卛卝卥卨卪卬卭卲卶卹卻-卾厀厁厃厇厈厊厎厏￾厐-厔厖厗厙厛厜厞厠厡厤厧厪-厭厯-厵厷-厺厼-厾叀參-叇収-叐叒叓叕叚叜-叞叡叢叧叴叺叾-吀吂吅吇吋吔吘-吚吜吢吤吥吪吰吳吶吷吺吽吿呁呂呄呅呇呉呌-呏呑呚呝-呡呣呥呧呩-呰呴呹呺呾呿咁咃咅咇-咊咍咑咓咗咘咜咞-咡",
   "咢咥咮咰咲咵-咷咹咺咼咾哃哅哊哋哖哘哛哠-哤哫哬哯-哱哴-哹哻哾唀唂-唅唈唊-唎唒唓唕-唚唜-唟唡唥唦￾唨唩唫唭唲唴-唶唸-唻唽啀啂啅啇啈啋-問啑-啔啗-啛啝-啠啢啣啨啩啫啯-啴啹啺啽啿喅喆喌-喎喐喒喓喕-喗喚喛喞喠-喦喨-喰喲喴営喸喺喼喿-嗃嗆-嗈嗊嗋嗎-嗐嗕嗗-嗛嗞嗠嗢嗧嗩嗭嗮嗰嗱嗴嗶嗸-嗼嗿嘂-嘅",
   "嘆嘇嘊嘋嘍嘐-嘗嘙嘚嘜嘝嘠-嘢嘥嘦嘨-嘫嘮-嘰嘳嘵嘷嘸嘺嘼-嘾噀-噋噏-噓噕噖噚噛噝-噡￾噣噥-噧噭-噰噲-噵噷-噺噽-嚄嚇-嚍嚐-嚒嚔-嚢嚤-嚮嚰-嚶嚸-嚻嚽-囉囋-囓囕囖囘囙囜団囥-囪囬囮囯囲図囶-囸囻囼圀-圂圅圇國-圑",
   "園-圛圝圞圠-圢圤-圧圫圱圲圴-圸圼圽圿坁坃-坆坈坉坋坒-坖坘坙坢坣坥坧坬坮坰-坲坴坵坸-坺坽-垀￾垁垇-垊垍-垑垔-垚垜-垟垥垨垪垬垯-垱垳垵-垷垹-埁埄-埊埌埍埐埑埓埖埗埛埜埞埡-埣埥-埬埮埰-埳埵-執埻埼埾埿堁堃-堅堈-堊堌堎-堐堒-堔堖-堘堚-堝堟堢堣堥-堩堫-堯報-場堶-堽",
   "堾-塃塅-塋塎-塐塒塓塕-塗塙-塝塟-塤塦-塪塭-塽塿墂墄墆-墈墊-墌￾墍-墑墔-墘墛-墝墠-墧墪-墻墽-壀壂-壄壆-壐壒-壔壖-壣壥-壪壭壯壱売壴壵壷壸壺-夁夃夅夆夈-夌夎夐-夓夗夘夛夝夞夠-夣夦夨夬夰夲夳夵夶夻",
   "夽-奀奃奅奆奊奌奍奐奒奓奙奛-奟奡奣奤奦-奲奵奷奺-奼奾-妀妅妉妋妌妎-妑妔妕妘妚-妝妟-妢妦￾妧妬妭妰妱妳-妸妺妼妽妿-姅姇-姉姌-姏姕姖姙姛姞-姢姤姦姧姩-姫姭-姸姺姼-姾娀娂娊娋娍-娐娒娔-娗娙-娛娝娞娡娢娤娦-娨娪-娰娳娵娷-娻娽-娿婁-婅婇婈婋-婔婖-婙婛-婠",
   "婡婣-婦婨婩婫-婳婸婹婻-婾媀-媑媓-媙媜-媩媫媬￾媭-媱媴媶媷媹-媽媿嫀嫃-嫈嫊嫋嫍-嫑嫓嫕嫗嫙-嫛嫝-嫟嫢嫤嫥嫧嫨嫪嫬-嫰嫲-嬈嬊-嬕嬘-嬱嬳嬵嬶嬸-嬿孁-孇",
   "孈-孏孒孖孞孠孡孧孨孫孭-孯孲孴孶-孹孻孼孾孿宂宆宊宍宎宐-宒宔宖実宧-宩宬-宯宱宲宷宺-宼寀寁寃寈-寋寍-寏￾寑寔-寜寠寢寣實寧審-寭寯寱-寷寽対尀専尃尅將專尋-導尐尒尓尗尙尛尞-尡尣尦尨-尫尭-尰尲尳尵-尷屃屄屆屇屌屍屒-屔屖-屘屚-屝屟屢層屧-屭屰屲-屸屻-屾岀岃-岇岉-岋岎岏岒岓岕岝-岡岤-岨",
   "岪岮-岰岲岴岶岹-岼岾峀峂峃峅-峊峌-峑峓-峘峚-峠峢峣峧峩峫峬峮峯峱-峺峼-崀￾崁崄崅崈-崍崏-崓崕崗-崚崜崝崟-崣崥崨崪-崬崯-崳崵-崼崿-嵆嵈嵉嵍-嵗嵙嵚嵜嵞-嵨嵪嵭嵮嵰-嵳嵵-嶁嶃-嶘嶚-嶜嶞-嶠",
   "嶡-嶶嶸-巄巆-巌巎-巚巜巟巠巣巤巪巬巭￾巰巵巶巸-巼巿帀帄帇帉-帋帍帎帒帓帗帞-帥帨-帬帯帰帲-帶帹帺帾-幁幃幆-幋幍-幓幖-幚幜幝幟幠幣-幱幵幷幹幾庁-広庅庈庉庌-庎庒庘庛庝庡-庤庨-庬庮-庲庴庺-庽庿-廅",
   "廆-廈廋-廐廔廕廗-廚廜-廧廩廫-廳廵廸廹廻-廽弅-弇弉弌-弎弐弒弔弖弙弚弜-弞弡-弤￾弨弫弬弮弰弲-弸弻弽-弿彁-彏彑彔彙-彜彞-彠彣彥彧彨彫彮彯彲彴-彶彸彺彽-彿徃徆徍-徏徑従徔徖徚徛徝-徠徢-徧復徫徬徯-徴徶徸-徻徾-忂忇忈忊忋忎忓-忕忚-応忞忟忢忣忥忦忨忩忬忯忰忲-忴忶忷忹忺忼怇",
   "怈怉怋怌怐怑怓怗怘怚怞怟怢-怤怬-怮怰-怴怶-怺怽怾恀恄-恊恌恎恏恑恓恔恖-恘恛恜恞-恡恥恦恮恱恲恴恵恷恾悀￾悁悂悅-悈悊悋悎-悑悓悕悗-悙悜悞悡悢悤悥悧悩悪悮悰悳悵-悷悹悺悽-惄惇-惉惌-惐惒-惔惖惗惙惛惞惡-惥惪惱惲惵惷惸惻-惿愂-愅愇愊-愌愐-愔愖-愙愛-愞愡愢愥愨-愪愬-愾慀-慆",
   "慇慉態慍慏慐慒-慔慖-慜慞-慡慣-慦慩-慯慱-慴慶慸-憊憌憍憏-憓憕￾憖-憜憞-憦憪憫憭-憶憸-憽憿-懁懃-懇應懌-懐懓懕-懥懧-懴懶-懾戀-戅戇戉戓戔戙戜-戞戠戣戦-戩戫戭戯-戲戵戶戸-戼扂扄-扆扊",
   "扏扐払-扗扙扚扜-扢扤扥扨扱扲扴扵扷扸扺扻扽抁-抃抅-抈抋-抐抔抙抜-択抣抦抧抩抪抭-抰抲-抴抶-抸抺抾拀拁￾拃拋拏拑拕拝拞拠拡拤拪拫拰拲拵拸-拻挀挃-挆挊-挍挏挐挒-挕挗-挙挜挦挧挩挬-挮挰挱挳-挸挻挼挾-捁捄捇捈捊捑-捔捖-捝捠捤-捦捨捪-捬捯捰捲-捵捸捹捼-捿掁掃-掆掋掍掑掓-掕掗掙-掟採掤掦掫掯掱掲掵掶掹掻掽掿揀",
   "揁-揃揅揇揈揊-揌揑揓-揕揗-揝揟揢揤-揨揫揬揮-揱揳揵揷揹-揼揾搃搄搆-搊損搎搑搒搕-搚搝搟搢-搤￾搥搧-搩搫搮-搳搵-搹搻搼搾摀摂摃摉摋-摑摓摕-摗摙-摝摟-摦摨摪-摬摮-摷摻-撁撃撆撈-撐撓撔撗撘撚-撝撟-撣撥-撨撪撫撯撱-撴撶撹撻撽-撿擁擃擄擆-擌擏擑擓-擖擙據",
   "擛-擝擟-擡擣擥擧-擿攁-攈攊-攑攓-攗攙-攡￾攢-攤攦-攪攬攭攰-攳攷攺攼攽敀-敄敆敇敊敋敍敎敐敒-敔敗敘敚敜敟-敡敤敥敧-敪敭-敯敱敳敵敶數-斆斈-斊斍-斏斒斔-斖斘斚斝斞斠斢斣斦斨斪斬斮斱-斸斺斻斾-旀旂旇-旊旍旐旑旓-旕旘-旟旡旣旤旪旫",
   "旲-旵旸旹旻-旿昁昄昅昇-昉昋昍昐-昒昖-昘昚-昜昞昡-昤昦昩-昬昮昰昲昳昷-昻昽昿晀時晄-晊晍晎晐晑晘￾晙晛-晞晠晢晣晥晧晩-晭晱-晳晵晸晹晻-晽晿-暁暃暅暆暈-暋暍-暐暒-暕暘-暜暞-暦暩-暭暯-暳暵-暸暺-暽暿-曘曚曞-曥曧曨曪-曯曱曵曶書曺曻曽朁-會",
   "朄-朇朌朎朏朑-朓朖朘-朚朜朞朠-朥朧朩朮朰朲朳朶-朹朻朼朾朿杁杄杅杇杊杋杍杒杔杕杗-杛杝杢-杤杦杧杫杬杮東杴杶￾杸-杻杽枀枂枃枅枆枈枊枌-枏枑-枔枖枙枛枟-枡枤枦枩枬枮枱枲枴枹-柀柂柅-柎柕-柗柛柟柡柣柤柦-柨柪柫柭柮柲柵-柼柾栁-栄栆栍栐栒栔栕栘-栜栞-栠栢-栨栫-栱栴-栶栺栻栿桇桋桍桏桒桖-桛",
   "桜-桟桪桬-桳桵桸-梀梂梄梇-梎梐-梒梔-梖梘-梡梣-梥梩-梬梮梱梲梴梶-梸￾梹-梿棁棃-棈棊棌棎-棑棓棔棖棗棙棛-棟棡棢棤-棭棯棲-棴棶-棸棻棽-椀椂-椄椆-椊椌椏椑椓-椞椡-椣椥-椬椮椯椱-椳椵-椸椺-椼椾楀楁楃-楓楕楖楘楙楛楜楟",
   "楡楢楤楥楧-楪楬業楯楰楲-楶楺楻楽-楿榁榃榅榊-榌榎-榓榖榗榙榚榝-榦榩榪榬榮-榰榲榳榵榶榸-榺榼榽￾榾-槀槂-槉構槍槏槑-槓槕-槚槜-槞槡-槬槮-槱槳-槼槾樀-樉樋-樖標-樞樠樢-樧権樫-樮樰樲-樴樶-樼樿-橃橅橆橈-橏橑-橗橚",
   "橜-橠橢-橤橦-橰橲-橸橺橻橽-橿檁-檃檅-檍檏檒-檖檘-檟檡-檦￾檧檨檪檭-欟欥欦欨-欮",
   "欯-欱欳-欶欸欻-欽欿-歂歄歅歈歊歋歍-歘歚-歡歨歩歫-歸歺歽-殀殅殈￾殌殎-殑殔殕殗-殙殜-殠殢-殩殫-殲殶殸-殾毀毃毄毆-毊毌毎毐毑毘毚毜-毠毢-毩毬-毮毰-毲毴毶-毸毺-毼毾-氄氈-氌氎氒気氜-氞氠氣氥氫-氭氱氳氶氷氹-氼氾氿汃-汅汈汋-汏汑-汓汖汘",
   "汙汚汢汣汥-汧汫-汯汱汳汵汷汸決-汼汿沀沄沇沊沋沍沎沑沒沕-沘沚沜-沞沠沢沨沬沯沰沴-沷沺泀-泃泆-泈泋泍-泏泑泒泘￾泙泚泜泝泟泤泦泧泩泬泭泲泴泹泿洀洂洃洅洆洈-洊洍洏-洑洓-洖洘洜洝洟-洤洦洨洩洬洭洯洰洴洶-洸洺洿浀浂浄浉浌浐浕-浘浛浝浟浡浢浤浥浧浨浫-浭浰-浳浵浶浹-浻浽-涁涃涄涆涇涊涋涍涏涐涒涖-涚涜涢涥涬涭涰涱涳涴涶涷涹-涾淁-淃淈-淊",
   "淍-淐淒-淕淗淚-淜淟淢淣淥淧-淪淭淯淰淲淴-淶淸淺淽-渄渆-渉渋渏渒渓渕渘渙減渜渞渟渢渦-渨渪測渮渰渱渳渵￾渶渷渹渻-湂湅-湌湏-湒湕湗湙湚湜-湞湠-湪湬湭湯-湽満-溂溄溇溈溊-溎溑-溗溙-溛溝溞溠溡溣溤溦溨溩溫-溮溰溳溵溸溹溼溾-滀滃-滆滈-滊滌-滎滐滒滖滘滙滛-滝滣滧滪-滯",
   "滰-滳滵-滸滺-漁漃-漅漇漈漊-漎漐-漒漖-漟漡-漣漥-漨漬漮漰漲漴漵漷-漽漿-潂￾潃-潅潈-潊潌潎-潗潙-潛潝潟-潡潣-潥潧-潬潯-潱潳潵-潷潹潻潽-澃澅-澇澊澋澏-澛澝-澠澢-澦澨-澲澴澵澷澸澺-澿濁濃-濈濊-濐濓-濝濟濢-濥",
   "濦-濭濰-瀐瀒-瀙瀜-瀢瀤-瀪￾瀫-瀴瀶-瀸瀺-灋灍灎灐-灝灟-灪灮灱-灴灷灹-灻災炁-炄炆-炈炋-炍炏-炑炓炗炘炚炛炞-炪炰炲炴-炶為炾炿烄-烇烉烋-烗烚",
   "烜-烞烠-烣烥烪烮烰-烶烸烺-烼烾-焈焋-焏焑焒焔焗焛-焥焧-焮焲-焴￾焵焷-煄煆-煉煋煍煏-煛煝煟-煣煥煩-煭煯-煱煴-煷煹煻煼煾-熃熅-熉熋-熎熐-熓熕-熗熚-熞熡-熧熩-熫熭-熲熴熶-熸熺-燂燄-燍燏-燓",
   "燖-營燡-燤燦燨-燭燯-燸燺-爅爇-爚￾爛爜爞-爧爩爫爭-爯爲-爴爺爼爾牀-牆牉-牋牎-牑牓-牕牗牘牚牜牞牠牣-牥牨牪-牭牰牱牳牴牶-牸牻-牽犂犃犅-犉犌犎犐犑犓-犞犠-犫犮犱-犳犵犺-狀狅-狇狉-狌狏狑狓-狖狘狚狛",
   "",
   "*97ⅰ-ⅹ",
   "",
   "",
   "",
   "*99*61︵︶︹︺︿﹀︽︾﹁-﹄*02︻︼︷︸︱￾︳︴",
   "",
   "ˊˋ˙–￾‥‵℅℉↖-↙∕∟∣≒≦≧⊿═-╳▁-▇￾█-▏▓-▕▼▽◢-◥☉⊕〒〝〞*37ɑ￾ńň￾ɡ",
   "〡-〩㊣㎎㎏㎜-㎞㎡㏄㏎㏑㏒㏕︰￢￤￾℡㈱￾‐*03ー゛゜ヽヾ〆ゝゞ﹉-﹒﹔-﹗﹙-﹡￾﹢-﹦﹨-﹫*13〇",
   "狜狝狟狢-狧狪狫狵狶狹狽-猀猂猄-猉猋-猍猏-猒猔猘-猚猟猠猣猤猦-猨猭猯猰猲猳猵猶猺-猽獀-獈￾獉-獌獎獏獑獓-獖獘-獟獡-獫獮獰獱",
   "獲-獽獿-玃玅玆玈玊玌玍玏玐玒-玕玗-玚玜-玞玠玡玣-玨玪玬玭玱玴-玶玸玹玼-玿珁珃-珇￾珋珌珎珒-珘珚-珝珟珡-珤珦珨珪-珬珮-珱珳-珷",
   "珸-琂琄琇琈琋-琎琑-琙琜-琡琣琤琧琩琫琭琯琱琲琷-琻琽-瑀瑂-瑍￾瑎-瑔瑖瑘瑝瑠-瑬瑮瑯瑱-瑵瑸-瑺",
   "瑻-瑽瑿璂璄-璆璈-璊璌璍璏璑-璛璝璟-璦璪-璹璻-瓇￾瓈-瓑瓓-瓛瓝瓟瓡瓥瓧-瓭瓰-瓲",
   "瓳瓵瓸-瓾甀-甃甅-甌甎甐甒甔-甗甛甝甞甠-甤甦甧甪甮甴甶甹甼甽甿畁-畄畆畇畉畊畍畐-畓畕-畘￾畝-畤畧-畩畫-畱畳畵-畷畺-畾疀-疂疄疅疇",
   "疈-疊疌-疎疐疓疕疘疛疜疞疢疦-疪疭疶疷疺疻疿-痁痆痋痌痎-痑痓痗痙痚痜痝痟-痡痥痩痬-痯痲痳痵-痸痺痻痽痾瘂瘄瘆瘇￾瘈瘉瘋瘍-瘏瘑-瘔瘖瘚瘜-瘞瘡瘣瘧瘨瘬瘮瘯瘱瘲瘶瘷瘹-瘻瘽癁療癄",
   "癅-癋癎-癓癕癗-癛癝癟-癢癤-癪癬-癮癰-癷癹発發癿-皁皃皅皉皊皌皍皏皐皒皔皕皗皘皚皛￾皜-皣皥-皭皯皰皳皵-皾盀盁盃",
   "盄盇盉盋盌盓盕盙盚盜-盞盠-盤盦-盭盰盳盵-盷盺盻盽盿眀眂眃眅眆眊県眎-眘眛-眞眡眣-眥眧眪眫￾眬眮眰-眴眹眻眽-眿睂睄-睆睈-睏睒-睙睜",
   "睝-睠睤睧睩睪睭-睸睺-睼瞁-瞃瞆-瞋瞏瞐瞓-瞞瞡瞣瞤瞦瞨瞫瞭-瞯瞱瞲瞴瞶-瞺￾瞼瞾矀-矌矎-矖矘-矚矝-矡矤",
   "矦矨矪矯-矲矴矵矷矹-矼砃-砈砊砋砎-砐砓砕砙砛砞砠-砢砤砨砪砫砮砯砱-砳砵砶砽砿硁-硄硆硈-硋硍硏硑硓硔硘-硚￾硛硜硞-硩硯-硶硸-硻硽-碃",
   "碄-碆碈碊碋碏碐碒碔-碖碙碝碞碠碢碤碦碨-碯碵-碸確-碽碿磀磂-磄磆-磈磌-磏磑-磓磖-磘磚-磣￾磤-磧磩-磫磭-磱磳磵磶磸磹磻-礀礂-礄礆-礌",
   "礍-礒礔-礝礟-礣礥-礳礵-礹礽礿祂-祅祇祊-祒祔祕祘祙祡祣￾祤祦祩-祬祮祰-祶祹祻-祿禂禃禆-禉禋-禎禐-禒",
   "禓-禙禛-禦禨-禲禴-禸禼禿秂秄秅秇秈秊秌秎-秐秓秔秖秗秙-秞秠-秢秥秨秪￾秬秮秱-秷秹秺秼秾秿稁稄稅稇-稊稌稏-稓稕稖稘稙稛稜",
   "稝稟稡稢稤-稲稴-稶稸稺稾穀-穅穇-穐穒-穖穘-穨￾穩-穯穱-穳穵穻-穾窂窅窇窉-窌窎-窐窓窔窙-窛窞窡窢",
   "窣窤窧窩-窫窮-窲窴-窾竀-竊竌-竕竗竘竚-竝竡竢竤竧-竬竮竰-竳￾竴-竸竻竼竾笀-笂笅笇笉笌-笎笐笒笓笖-笘笚笜笝笟笡-笣笧笩笭",
   "笯笰笲笴-笷笹笻笽笿-筄筆筈筊筍筎筓筕筗筙筜筞筟筡筣-筭筯筰筳筴筶筸筺筼筽筿箁-箄箆-箌箎箏￾箑-箓箖箘-箛箞-箠箣-箥箮-箰箲箳箵-箷箹-節篂-範",
   "篅篈-篋篍-篐篒篔-篘篛篜篞-篠篢-篤篧-篩篫-篭篯篰篲-篶篸-篻篽篿-簆簈-簊簍簎簐-簕簗-簙￾簚-簞簠-簥簨簩簫-簷簹-簾籂",
   "籃-籌籎-籲籵-籺籾-粇￾粈粊-粐粓粔粖粙-粛粠粡粣粦-粩粫-粭粯粰粴-粸粺粻",
   "粿糀糂-糄糆糉糋糎-糔糘糚糛糝糞糡-糧糩-糮糰-糷糹糺糼-紉紋-紐￾紑-紟紡紣-紦紨-紪紬-紮細-紶",
   "紷-絭絯-絶￾絸-綘",
   "継-綥綧-維綯-緙￾線-緺",
   "緻-縹￾縺縼-繀繂-繆繈-繝",
   "繞-纁纃-纚纜-纞￾纮纴纻纼绖绤绬绹缊缐缞缷缹缻-罁罃罆-罏罒罓",
   "罖罙罛-罞罠罣-罧罫-罭罯罰罳罵-罸罺-罽罿羀羂-羉羋羍羏-羓羕-羙羛羜羠羢羣羥羦羨-羮羱￾羳-羷羺羻羾翀翂-翄翆-翉翋翍翏-翓翖翗翙-翞翢翣",
   "翤翧翨翪-翭翯翲翴-翺翽-翿耂耇-耊耎耏耑耓耚耛耝-耟耡耣耤耫-耰耲耴耹耺耼耾聀聁聄聅聇-聉聎-聑聓聕-聗￾聙聛-聨聫-聰聲-聽",
   "聾肁肂肅肈肊肍-肒肔肕肗肙肞肣肦-肨肬肰肳肵肶肸肹肻胅胇-胋胏-胕胘胟胠胢胣胦胮胵胷胹胻胾-脁脃-脅脇脈脋￾脌脕脗脙脛-脝脟-脫脭脮脰脳-脵脷脹-脽脿",
   "腀-腅腇腉腍-腏腒腖-腘腛-腟腡-腤腦腨腪-腬腯腲腳腵-腸膁膃-膇膉膋-膎膐膒-膗膙膚膞-膢膤膥￾膧膩膫-膲膴-膹膼-膿臄臅臇-臉臋臍-臓",
   "臔-臢臤-臦臨臩臫臮-臲臵-臺臽臿舃與-舋舎舏舑舓舕-舚舝舠舤-舧舩舮舲舺舼舽舿￾艀-艃艅艆艈艊艌-艎艐-艗艙艛-艞艠-艧艩",
   "艪-艭艱艵-艸艻艼芀芁芃芅-芇芉芌芐芓-芖芚芛芞芠芢芣芧芲芵芶芺-芼芿苀苂苃苅苆苉苐苖苙苚苝苢苧-苪苬-苮苰苲苳苵苶苸￾苺苼-茀茊茋茍茐茒茓茖茘茙茝-茦茩茪茮茰茲茷茻茽",
   "茾茿荁荂荄荅荈荊-荎荓荕-荙荝荢荰-荶荹荺荾-莄莇莈莊-莍莏-莑莔-莗莙莚莝莟莡-莧莬-莮￾莯莵莻莾莿菂-菄菆菈菉菋菍菎菐-菓菕菗菙-菛菞菢-菤菦-菨菫-菭",
   "菮華菳-菷菺-菼菾-萀萂萅萇-萊萐萒-萗萙-萛萞-萣萩-萰萲-萷萹-萻萾-葅葇-葉￾葊-葐葒-葖葘葝-葠葢葤-葨葪葮-葰葲葴葷葹葻葼",
   "葽-蒁蒃-蒆蒊蒍蒏-蒖蒘蒚蒛蒝-蒠蒢-蒮蒰蒱蒳蒵-蒷蒻蒼蒾蓀蓂蓃蓅-蓈蓋蓌蓎蓏蓒蓔蓕蓗￾蓘-蓜蓞蓡蓢蓤蓧-蓫蓭-蓯蓱-蓻蓽蓾蔀-蔂",
   "蔃-蔋蔍-蔐蔒蔔-蔖蔘蔙蔛-蔞蔠蔢-蔪蔭-蔶蔾-蕂蕄-蕇蕋-蕕￾蕗蕘蕚-蕝蕟-蕣蕥-蕧蕩-蕱蕳蕵-蕸蕼蕽蕿-薁",
   "薂薃薆薈-薎薐-薚薝-薣薥-薧薩薫-薭薱-薶薸薺-藀藂-藈藊-藎藑藒￾藔藖-藛藝-藣藥-藨藪-藸",
   "藹藺藼-藾蘀-蘄蘆-蘐蘒-蘕蘗-蘦蘨蘪-蘷蘹-蘻蘽-虀￾虁-虌虒虓處-虙虛-虝號-虡虣-虪",
   "虭虯虰虲-虸蚃-蚉蚎-蚒蚔蚖-蚛蚞-蚢蚥蚦蚫蚭蚮蚲蚳蚷-蚹蚻-蚿蛁-蛃蛅蛈蛌蛍蛒蛓蛕-蛗蛚蛜￾蛝蛠-蛣蛥-蛨蛪-蛬蛯蛵-蛷蛺-蛽蛿蜁蜄-蜆蜋蜌蜎-蜑蜔蜖",
   "蜙蜛蜝蜟蜠蜤蜦-蜨蜪-蜭蜯蜰蜲蜳蜵蜶蜸-蜺蜼蜽蝀-蝆蝊蝋蝍蝏-蝒蝔-蝖蝘蝚-蝟蝡蝢蝦-蝭蝯蝱-蝳蝵￾蝷-蝺蝿-螁螄螆螇螉螊螌螎-螒螔-螖螘-螞螠-螤",
   "螥-螧螩螪螮螰-螲螴螶-螹螻螼螾螿蟁-蟅蟇-蟉蟌-蟐蟔-蟚蟜-蟟蟡-蟤蟦-蟩蟫-蟭蟯-蟸￾蟺-蟽蟿-蠂蠄-蠉蠋-蠒蠔蠗-蠚蠜-蠠蠣",
   "蠤-蠱蠳-蠸蠺蠻蠽-蠿衁-衃衆-衋衎-術衕衖衘衚-衠衦衧衪衭衯衱衳-衶衸-衺￾衻衼袀袃袆袇袉袊袌袎-袑袓-袕袗-袛袝-袡袣袥-袪",
   "袬袮-袰袲-袶袸-袻袽-裀裃裄裇裈裊-裍裏-裑裓裖裗裚-裞裠裡裦裧裩-裯裲裵-裷裺裻製裿-褁褃-褈￾褉褋-褏褑褔-褘褜-褠褢-褤褦-褩褬-褯褱-褳褵褷",
   "褸-襀襂襃襅-襝襠-襥襧-襺襼￾襽襾覀覂覄覅覇-覡",
   "覢-觀觃觍觓-觕觗-觙觛觝觟-觢觤觧-觪觬-觮觰-觲觴-觺￾觻-觿訁-訆計-訝",
   "訞-訽訿-詇詉-詞￾詟-詸詺-誀",
   "誁-誈誋-誒誔-諂￾諃-諣",
   "諤-謆謈-謣￾謤謥謧-譅",
   "譆-譥譧-譫譭-讆￾讇-讟讬讱讻诇诐诪谉谞",
   "谸-豀豂-豅豈豊豋豍-豔豖-豙豛-豠豣-豩豬-豲豴-豷豻-貁貃貄貆貇￾貈貋貍-貓貕-貗貙-貭",
   "貮-賬￾賭-贍",
   "贎-贜贠赑赒赗赟赥赨-赪赬赮赯赱赲赸-趀趂趃趆-趉趌-趐趒趓趕-趞趠趡￾趢趤-趰趲趶趷趹趻趽跀-跂跅跇-跊跍跐跒-跔",
   "跕跘跙跜跠-跢跥-跧跩跭跮跰-跲跴跶跼跾-踄踆-踈踋踍踎踐-踓踕-踜踠踡踤-踨踫踭踰踲-踴踶-踸踻踼踾￾踿蹃蹅蹆蹌-蹐蹓-蹘蹚-蹥蹧蹨蹪蹫蹮蹱",
   "蹳蹵蹷-蹻蹽蹾躀躂-躄躆躈-躎躑-躓躕-躛躝躟-躪躭躮躰躱躳-躹躻-軂￾軃-軍軏-軤",
   "軥-輣￾輤-轄",
   "轅-轥轪辀辌辒辝辠-辢辤-辧辪辬-辯農-辵辷辸辺-込辿迀迃迆￾迉-迍迏迒迖迗迚迠迡迣迧迬迯迱迲迴-迶迺-迼迾迿逇逈逌逎逓逕逘",
   "這逜連-逥逧-逬逰-逴逷逹逺逽逿遀遃遅遆遈-遌過達-遖遙遚遜-遡遤遦遧適-遬遯-遳遶-遼遾邁￾還-邇邉邊邌-邐邒邔邖邘邚邜邞-邠邤邥邧-邩邫邭邲邷邼邽邿郀",
   "郂郃郆郈郉郋-郍郒郔-郖郘-郚郞-郠郣-郥郩郪郬郮郰-郳郵-郷郹-郼郿-鄁鄃鄅-鄘鄚-鄜￾鄝鄟-鄡鄤-鄮鄰鄲-鄸鄺-酂酄",
   "酅酇酈酑酓-酖酘酙酛酜酟酠酦-酨酫酭酳酺-酼醀-醄醆醈醊醎醏醓-醙醜-醡醤-醩醫醬醰-醳醶-醹醻￾醼-釆釈釋釐釒-釛針-釥",
   "釦-鈤￾鈥-鉅",
   "鉆-鉳鉵-銅￾銆-銍銏-銧",
   "銨-銭銯-鋇鋉-鋨￾鋩-錉",
   "錊-錽錿-鍉￾鍊-鍩鍫",
   "鍬-鎎鎐-鎫￾鎬-鏉鏋-鏍",
   "鏎-鏕鏗-鐍￾鐎-鐮",
   "鐯-鐽鐿-鑪鑬-鑯￾鑰-钄钑钖钘铇铏铓铔铚铦铻锜锠",
   "锧锳锽镃镈镋镕镚镠镮镴镵長-镾門-閪￾閫-闋",
   "闌-闧闬闿阇阓阘阛阞阠阣-阩阫-阭阯阰阷-阺阾陁陃陊陎陏陑-陓陖陗￾陘-陚陜-陞陠陣陥陦陫陭-陱陳陸-隄隇隉隊",
   "隌階隑-隓隕隖隚際隝-隦隨-隯隱隲隴隵隷隸隺隻隿雂雃雈雊雋雐雑雓雔雖-雟雡-雧雫￾雬-雮雰-雲雴雵雸雺-雽雿霂霃霅霊-霌霐-霒霔霕霗-霛霝霟霠",
   "霡-霩霫霬霮霯霱霳-霷霺-霽霿-靑靔靕靗靘靚靜靝靟靣靤靦-靨靪-靱￾靲靵靷-靻靽-鞄鞆-鞊鞌鞎-鞐鞓鞕-鞗鞙-鞝",
   "鞞鞟鞡鞢鞤-鞪鞬鞮鞰鞱鞳鞵-韣￾韤韥韨韮-韲韴韷-頎",
   "頏-額￾顎-顮",
   "顯-顴颋颎颒颕颙颣風-飍飏飐飔飖飗飛-飝飠-飤￾飥飦飩-餇",
   "餈-餌餎餏餑-餭餯-饉￾饊-饓饖-饢饤饦饳饸饹饻饾馂馃馉",
   "馌馎馚-馤馦馧馩-駘￾駙-駹",
   "駺-騸￾騹-驙",
   "驚-驫驲骃骉骍骎骔骕骙骦骩-骯骲-骵骹骻骽-骿髃髄髆-髊髍-髐髒體-髗髙-髜￾髝髞髠髢-髥髧-髪髬髮髰-髸髺髼-鬂鬄-鬆",
   "鬇鬉-鬎鬐-鬒鬔-鬞鬠-鬢鬤-鬮鬰鬱鬳-鬺鬽-魀魆魊-魌魎魐魒魓魕-魚￾魛-魻",
   "魼-鮺￾鮻-鯛",
   "鯜-鰚￾鰛-鰻",
   "鰼-鱺￾鱻鱽鱾鲀鲃鲄鲉鲊鲌鲏鲓鲖-鲙鲝鲪鲬鲯鲹鲾-鳂鳈鳉鳑鳒鳚鳛鳠鳡",
   "鳣-鴡￾鴢-鵂",
   "鵃-鶁￾鶂-鶢",
   "鶣-鷡￾鷢-鸂",
   "鸃-鸞鸤鸧鸮鸰鸴鸻鸼鹀鹍鹐鹒-鹔鹖鹙鹝鹟-鹢鹥鹮鹯鹲鹴-鹽麀￾麁麃-麆麉麊麌-麑麔-麜麞麠-麥麧-麪",
   "麫-麳麵-麷麹麺麼麿-黃黅-黈黊-黌黐黒黓黕-黗黙黚點黡黣黤黦黨黫-黮黰-黸黺黽黿-鼅￾鼆-鼊鼌鼏鼑鼒鼔-鼖鼘鼚-鼟鼡鼣-鼫鼭鼮鼰鼱",
   "鼲-鼶鼸鼺鼼鼿-齃齅-齏齒-齸￾齹-齾龁龂龍-龘龜-龞龡-龥郎凉秊裏隣",
   "兀-﨏﨑﨓﨔礼﨟-﨡﨣﨤﨧-﨩"]

def gbkExtra : ByteTable := .ofRows 0x81 0x40 0xFE gbkExtraRows

/-- The pairs GB 18030 adds to GBK, by first byte from 0x81 and second byte from 0x40 to 0xFE. -/
def gb18030ExtraRows : List String :=
  ["",
   "",
   "",
   "",
   "",
   "",
   "",
   "",
   "",
   "",
   "",
   "",
   "",
   "",
   "",
   "",
   "",
   "",
   "",
   "",
   "",
   "",
   "",
   "",
   "",
   "",
   "",
   "",
   "",
   "",
   "",
   "",
   "\uE4C6-\uE504￾\uE505-\uE525",
   "\uE526-\uE564￾\uE565-\uE585*10\uE766-\uE76B*50€\uE76D*10\uE76E\uE76F*12\uE770\uE771",
   "\uE586-\uE5C4￾\uE5C5-\uE5E5",
   "\uE5E6-\uE624￾\uE625-\uE645*83\uE772-\uE77C",
   "\uE646-\uE684￾\uE685-\uE6A5*86\uE77D-\uE784",
   "\uE6A6-\uE6E4￾\uE6E5-\uE705*24\uE785-\uE78C*24\uE78D-\uE793*12\uE794\uE795*05\uE796*02\uE797-\uE79F",
   "\uE706-\uE744￾\uE745-\uE765*33\uE7A0-\uE7AE*33\uE7AF-\uE7BB",
   "*86\uE7BC-\uE7C6*27\uE7C7*02ǹ￾\uE7C9-\uE7CC*37\uE7CD-\uE7E1",
   "*24\uE7E2*02\uE7E3￾\uE7E4-\uE7E6*41〾⿰-⿻￾\uE7F4-\uE800*76\uE801-\uE80F",
   "*97\uE000-\uE05D",
   "*97\uE05E-\uE0BB",
   "*97\uE0BC-\uE119",
   "*97\uE11A-\uE177",
   "*97\uE178-\uE1D5",
   "*97\uE1D6-\uE233",
   "",
   "",
   "",
   "",
   "",
   "",
   "",
   "",
   "",
   "",
   "",
   "",
   "",
   "",
   "",
   "",
   "",
   "",
   "",
   "",
   "",
   "",
   "",
   "",
   "",
   "",
   "",
   "",
   "",
   "",
   "",
   "",
   "",
   "",
   "",
   "",
   "",
   "",
   "",
   "*99*87\uE810-\uE814",
   "",
   "",
   "",
   "",
   "",
   "",
   "",
   "",
   "",
   "",
   "",
   "",
   "",
   "",
   "",
   "",
   "",
   "",
   "",
   "",
   "",
   "",
   "",
   "",
   "",
   "",
   "",
   "",
   "",
   "",
   "",
   "",
   "*97\uE234-\uE291",
   "*97\uE292-\uE2EF",
   "*97\uE2F0-\uE34D",
   "*97\uE34E-\uE3AB",
   "*97\uE3AC-\uE409",
   "*97\uE40A-\uE467",
   "*16⺁\uE816-\uE818⺄㑳㑇⺈⺋\uE81E㖞㘚㘎⺌⺗㥮㤘\uE826㧏㧟㩳㧐\uE82B\uE82C㭎㱮㳠⺧\uE831\uE832⺪䁖䅟⺮䌷⺳⺶⺷\uE83B䎱䎬⺻䏝䓖䙡䙌\uE843￾䜣䜩䝼䞍⻊䥇䥺䥽䦂䦃䦅䦆䦟䦛䦷䦶\uE854\uE855䲣䲟-䲡䱷䲢䴓-䴙䶮\uE864\uE468-\uE4C5"]

def gb18030Extra : ByteTable := .ofRows 0x81 0x40 0xFE gb18030ExtraRows

/-- The ranges of the four-byte sequences of GB 18030 below U+10000: the sequence number where each starts and the character it starts with. -/
def gb18030Ranges : List (Nat × Nat) :=
  [(0, 0x0080), (36, 0x00A5), (38, 0x00A9), (45, 0x00B2), (50, 0x00B8),
   (81, 0x00D8), (89, 0x00E2), (95, 0x00EB), (96, 0x00EE), (100, 0x00F4),
   (103, 0x00F8), (104, 0x00FB), (105, 0x00FD), (109, 0x0102), (126, 0x0114),
   (133, 0x011C), (148, 0x012C), (172, 0x0145), (175, 0x0149), (179, 0x014E),
   (208, 0x016C), (306, 0x01CF), (307, 0x01D1), (308, 0x01D3), (309, 0x01D5),
   (310, 0x01D7), (311, 0x01D9), (312, 0x01DB), (313, 0x01DD), (341, 0x01FA),
   (428, 0x0252), (443, 0x0262), (544, 0x02C8), (545, 0x02CC), (558, 0x02DA),
   (741, 0x03A2), (742, 0x03AA), (749, 0x03C2), (750, 0x03CA), (805, 0x0402),
   (819, 0x0450), (820, 0x0452), (7922, 0x2011), (7924, 0x2017), (7925, 0x201A),
   (7927, 0x201E), (7934, 0x2027), (7943, 0x2031), (7944, 0x2034), (7945, 0x2036),
   (7950, 0x203C), (8062, 0x20AD), (8148, 0x2104), (8149, 0x2106), (8152, 0x210A),
   (8164, 0x2117), (8174, 0x2122), (8236, 0x216C), (8240, 0x217A), (8262, 0x2194),
   (8264, 0x219A), (8374, 0x2209), (8380, 0x2210), (8381, 0x2212), (8384, 0x2216),
   (8388, 0x221B), (8390, 0x2221), (8392, 0x2224), (8393, 0x2226), (8394, 0x222C),
   (8396, 0x222F), (8401, 0x2238), (8406, 0x223E), (8416, 0x2249), (8419, 0x224D),
   (8424, 0x2253), (8437, 0x2262), (8439, 0x2268), (8445, 0x2270), (8482, 0x2296),
   (8485, 0x229A), (8496, 0x22A6), (8521, 0x22C0), (8603, 0x2313), (8936, 0x246A),
   (8946, 0x249C), (9046, 0x254C), (9050, 0x2574), (9063, 0x2590), (9066, 0x2596),
   (9076, 0x25A2), (9092, 0x25B4), (9100, 0x25BE), (9108, 0x25C8), (9111, 0x25CC),
   (9113, 0x25D0), (9131, 0x25E6), (9162, 0x2607), (9164, 0x260A), (9218, 0x2641),
   (9219, 0x2643), (11329, 0x2E82), (11331, 0x2E85), (11334, 0x2E89), (11336, 0x2E8D),
   (11346, 0x2E98), (11361, 0x2EA8), (11363, 0x2EAB), (11366, 0x2EAF), (11370, 0x2EB4),
   (11372, 0x2EB8), (11375, 0x2EBC), (11389, 0x2ECB), (11682, 0x2FFC), (11686, 0x3004),
   (11687, 0x3018), (11692, 0x301F), (11694, 0x302A), (11714, 0x303F), (11716, 0x3094),
   (11723, 0x309F), (11725, 0x30F7), (11730, 0x30FF), (11736, 0x312A), (11982, 0x322A),
   (11989, 0x3232), (12102, 0x32A4), (12336, 0x3390), (12348, 0x339F), (12350, 0x33A2),
   (12384, 0x33C5), (12393, 0x33CF), (12395, 0x33D3), (12397, 0x33D6), (12510, 0x3448),
   (12553, 0x3474), (12851, 0x359F), (12962, 0x360F), (12973, 0x361B), (13738, 0x3919),
   (13823, 0x396F), (13919, 0x39D1), (13933, 0x39E0), (14080, 0x3A74), (14298, 0x3B4F),
   (14585, 0x3C6F), (14698, 0x3CE1), (15583, 0x4057), (15847, 0x4160), (16318, 0x4338),
   (16434, 0x43AD), (16438, 0x43B2), (16481, 0x43DE), (16729, 0x44D7), (17102, 0x464D),
   (17122, 0x4662), (17315, 0x4724), (17320, 0x472A), (17402, 0x477D), (17418, 0x478E),
   (17859, 0x4948), (17909, 0x497B), (17911, 0x497E), (17915, 0x4984), (17916, 0x4987),
   (17936, 0x499C), (17939, 0x49A0), (17961, 0x49B8), (18664, 0x4C78), (18703, 0x4CA4),
   (18814, 0x4D1A), (18962, 0x4DAF), (19043, 0x9FA6), (33469, 0xE76C), (33470, 0xE7C8),
   (33471, 0xE7E7), (33484, 0xE815), (33485, 0xE819), (33490, 0xE81F), (33497, 0xE827),
   (33501, 0xE82D), (33505, 0xE833), (33513, 0xE83C), (33520, 0xE844), (33536, 0xE856),
   (33550, 0xE865), (37845, 0xF92D), (37921, 0xF97A), (37948, 0xF996), (38029, 0xF9E8),
   (38038, 0xF9F2), (38064, 0xFA10), (38065, 0xFA12), (38066, 0xFA15), (38069, 0xFA19),
   (38075, 0xFA22), (38076, 0xFA25), (38078, 0xFA2A), (39108, 0xFE32), (39109, 0xFE45),
   (39113, 0xFE53), (39114, 0xFE58), (39115, 0xFE67), (39116, 0xFE6C), (39265, 0xFF5F),
   (39394, 0xFFE6)]


end MailIngest.Text.Charset
